import JqFlow.Terminal.Grapheme

/-!
# Styled text

In a styled text every code point knows the tags that are open at it. A terminal receives it in
runs, each of them in one style, and measures and cuts a line run by run.

## Main definitions

- `Glyph`, `StyledText`: a code point with its tags, and a text of them
- `StyledText.runs`: the runs of a styled text
- `Line`, `Line.crop`, `Line.fit`: the runs of a line, cut or filled up to a number of cells
-/

namespace JqFlow

/-- A code point with the tags that are open at it, each named by its place. -/
structure Glyph where
  code : CodePoint
  tags : List Nat
  deriving DecidableEq

/-- A text in styles. -/
abbrev StyledText := List Glyph

/-- The runs of a line. -/
abbrev Line := List Text

namespace StyledText

/-- A text without tags. -/
def plain (t : Text) : StyledText :=
  t.map (⟨·, []⟩)

/-- The text without its styles. -/
def text (s : StyledText) : Text :=
  s.map Glyph.code

/-- The texts of the longest parts with the same tags. -/
def runs (s : StyledText) : Line :=
  (s.splitBy fun a b => a.tags = b.tags).map text

/-- Another text in the styles of this one. What is longer than it has no style. -/
def retext : StyledText → Text → StyledText
  | g :: s, c :: t => ⟨c, g.tags⟩ :: retext s t
  | _, t => plain t

/-- Parts as long as the given texts, one after another. -/
def divideLike (s : StyledText) : List Text → List StyledText
  | [] => []
  | t :: ts => s.take t.length :: divideLike (s.drop t.length) ts

end StyledText

namespace Line

/-- The number of cells of the runs of a line, each measured by itself. -/
def cells : Line → Nat
  | [] => 0
  | run :: rest => Text.cells run + cells rest

/-- The runs of a line up to the one that reaches the width, which is cut there. -/
def cutAt (width : Nat) : Line → Line
  | [] => []
  | run :: rest =>
    if Text.cells run < width then run :: cutAt (width - Text.cells run) rest
    else [Text.fitTo width run]

/-- A line that is no longer than the width. -/
def crop (width : Nat) (l : Line) : Line :=
  if l.cells > width then l.cutAt width else l

/-- A line that is as long as the width. -/
def fit (width : Nat) (l : Line) : Line :=
  if l.cells < width then l ++ [Text.spaces (width - l.cells)] else l.crop width

end Line

end JqFlow
