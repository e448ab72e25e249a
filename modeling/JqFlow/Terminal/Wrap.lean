import JqFlow.Screen
import JqFlow.Terminal.Styled
import JqFlow.Text.Lines

/-!
# Wrapping

A text is laid out in lines of a given number of cells. Lines are broken between words; a word that
is too long for a line is broken inside, or cut off with an ellipsis.

## Main definitions

- `Wrap.words`: a text cut before its words
- `Wrap.fill`: lines filled with words
- `Overflow`: what is done with long words
- `Wrap.lines`: the lines of a styled text
- `Wrap.longest`: the number of cells that a text needs
-/

namespace JqFlow

/-- What is done with a word that is too long for a line. -/
inductive Overflow
  | fold
  | ellipsis
  deriving DecidableEq

namespace Wrap

/-- A code point before words: it starts a word of its own if it is white space and a word
follows. -/
def joinWord (c : CodePoint) : List Text → List Text
  | (d :: word) :: rest =>
    if c.isBlank && !d.isBlank then [c] :: (d :: word) :: rest else (c :: d :: word) :: rest
  | _ => [[c]]

/-- A text cut before its words. White space belongs to the word before it, and at the start to the
first word. -/
def words (t : Text) : List Text :=
  match t.foldr joinWord [] with
  | blank :: word :: rest =>
    if blank.all CodePoint.isBlank then (blank ++ word) :: rest else blank :: word :: rest
  | ws => ws

/-- Lines filled with words, the first of which has already begun. It has come to a column, which
is the sum of what its words take. White space at the end of a line need not fit. -/
def fill (o : Overflow) (width : Nat) : List Text → Text → Nat → List Text
  | [], line, _ => [line]
  | word :: rest, line, column =>
    let size := Text.cells (Text.trimEnd CodePoint.isBlank word)
    if column + size ≤ width then fill o width rest (line ++ word) (column + Text.cells word)
    else
      let parts := if size > width ∧ o = .fold then Text.chop width word else [word]
      let full := if line = [] then parts.dropLast.dropWhile (· = []) else line :: parts.dropLast
      let begun := parts.getLast?.getD []
      full ++ fill o width rest begun (Text.cells begun)

/-- So many cells lie between two tab stops. -/
def tabWidth : Nat := 8

/-- A line with its tabs turned into spaces up to the next tab stop, from a column on, after which
there was a part without tabs, given from its end. -/
def expandTabsFrom (column : Nat) (part : Text) : StyledText → StyledText
  | [] => []
  | g :: rest =>
    if g.code = '\t' then
      let reached := column + Text.cells (CodePoint.scalar ' ' :: part).reverse
      let missing := (tabWidth - reached % tabWidth) % tabWidth
      List.replicate (missing + 1) ⟨CodePoint.scalar ' ', g.tags⟩ ++
        expandTabsFrom (reached + missing) [] rest
    else g :: expandTabsFrom column (g.code :: part) rest

/-- A line with its tabs turned into spaces up to the next tab stop. -/
def expandTabs (line : StyledText) : StyledText :=
  expandTabsFrom 0 [] line

/-- A line without the white space at its end that lies beyond the width. -/
def trimBeyond (width : Nat) (line : StyledText) : StyledText :=
  let blank := line.length - (Text.trimEnd CodePoint.isBlank line.text).length
  line.take (line.length - min blank (line.length - width))

/-- A line cut to the width. -/
def cut (o : Overflow) (width : Nat) (line : StyledText) : StyledText :=
  if Text.cells line.text ≤ width then line
  else
    match o with
    | .fold => line.retext (Text.fitTo width line.text)
    | .ellipsis => line.retext (Text.fitTo (width - 1) line.text ++ "…")

/-- The spaces that a line needs to take the width. -/
def margin (width : Nat) (line : StyledText) : StyledText :=
  .plain (Text.spaces (width - Text.cells line.text))

/-- A line in its place between the margins. -/
def align (o : Overflow) (a : Alignment) (width : Nat) (line : StyledText) : StyledText :=
  match a with
  | .ragged => cut o width line
  | .left =>
    let line := cut o width line
    line ++ margin width line
  | .right =>
    let line := cut o width (line.take (Text.trimEnd CodePoint.isBlank line.text).length)
    margin width line ++ line

/-- The lines of a styled text. -/
def lines (o : Overflow) (a : Alignment) (width : Nat) (s : StyledText) : List StyledText :=
  (s.splitOnP (·.code = CodePoint.scalar '\n')).flatMap fun line =>
    let line := expandTabs line
    (line.divideLike (fill o width (words line.text) [] 0)).map fun line =>
      align o a width (trimBeyond width line)

/-- The number of cells of the longest line of a text. -/
def longest (t : Text) : Nat :=
  ((t.splitOnP CodePoint.isLineBreak).map Text.cells).foldl max 0

end Wrap

end JqFlow
