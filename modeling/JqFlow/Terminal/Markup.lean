import JqFlow.Screen
import JqFlow.Terminal.Emoji
import JqFlow.Terminal.Style
import JqFlow.Terminal.Styled

/-!
# Console markup

What is printed on a terminal is written with tags in square brackets, which set a style until they
are closed. Every closing tag needs an open one, of the same style if it has a name. A tag can hand
parameters to a handler, which are not looked at here. Names of pictographs stand for them.

## Main definitions

- `Markup.escape`: markup for a text as it is
- `Markup.Piece`, `Markup.pieces`: markup as plain pieces and tags
- `Markup.render`: the styled text that markup shows
-/

namespace JqFlow

namespace Markup

/-- What the name of a tag can start with. -/
def startsTag : CodePoint → Bool
  | .scalar c => c.isLower || c = '#' || c = '/' || c = '@'
  | .surrogate _ => false

/-- The inside of a tag that starts after an opening bracket, and the text after it. -/
def tag? : Text → Option (Text × Text)
  | [] => none
  | c :: rest =>
    if startsTag c then
      let (inside, after) := rest.span fun c =>
        c ≠ CodePoint.scalar '[' && c ≠ CodePoint.scalar ']'
      match after with
      | .scalar ']' :: after => some (c :: inside, after)
      | _ => none
    else none

/-- A part of markup: text, or the inside of a tag, with the number of backslashes before its
bracket. -/
inductive Piece
  | plain (t : Text)
  | tag (backslashes : Nat) (inside : Text)

/-- Text before a piece; it joins with text that is there. -/
def Piece.addPlain (t : Text) (pieces : List Piece) : List Piece :=
  match pieces with
  | .plain u :: rest => .plain (t ++ u) :: rest
  | pieces => if t = [] then pieces else .plain t :: pieces

/-- The pieces of markup, with so many backslashes before it. The fuel bounds the number of code
points. -/
def piecesFrom : Nat → Nat → Text → List Piece
  | 0, _, _ => []
  | fuel + 1, backslashes, t =>
    let held : Text := List.replicate backslashes '\\'
    match t with
    | [] => Piece.addPlain held []
    | c :: rest =>
      if c = '\\' then piecesFrom fuel (backslashes + 1) rest
      else if c = '[' then
        match tag? rest with
        | some (inside, after) => .tag backslashes inside :: piecesFrom fuel 0 after
        | none => Piece.addPlain (held ++ [c]) (piecesFrom fuel 0 rest)
      else Piece.addPlain (held ++ [c]) (piecesFrom fuel 0 rest)

/-- The pieces of markup. -/
def pieces (t : Text) : List Piece :=
  piecesFrom (t.length + 1) 0 t

/-- So many backslashes. -/
def backslashes (n : Nat) : Text :=
  List.replicate n (CodePoint.scalar '\\')

/-- Markup for a text as it is. What looks like a tag gets a backslash, and the backslashes before
it are doubled; so is one backslash alone at the end. -/
def escape (t : Text) : Text :=
  let escaped := (pieces t).flatMap fun
    | .plain t => t
    | .tag n inside => backslashes (2 * n + 1) ++ "[" ++ inside ++ "]"
  if (backslashes 1).isSuffixOf escaped && !(backslashes 2).isSuffixOf escaped then
    escaped ++ backslashes 1
  else escaped

/-- The name of a tag, before its parameters. -/
def tagName (inside : Text) : Text :=
  inside.takeWhile (· ≠ CodePoint.scalar '=')

/-- Plain text with the brackets in it freed from their backslashes. -/
def freeBrackets : Text → Text
  | .scalar '\\' :: .scalar '[' :: rest => CodePoint.scalar '[' :: freeBrackets rest
  | c :: rest => c :: freeBrackets rest
  | [] => []

/-- The controls that ring the bell or move the cursor: bell, backspace, vertical tab, form feed and
carriage return. -/
def actingControls : List Nat := [7, 8, 11, 12, 13]

/-- The text without the controls that would ring the bell or move the cursor. -/
def dropControls (s : StyledText) : StyledText :=
  s.filter fun g => !actingControls.contains g.code.toNat

/-- A tag that is open, with its place and the normal form of its name. -/
structure OpenTag where
  place : Nat
  name : Text

/-- The normal form of the name of a tag. -/
def normalName (name : Text) : Except MarkupError Text :=
  (Style.normalName name).mapError fun f => .component f.message

/-- The mistake of a closing tag at a position that no open tag matches. -/
def unmatched (inside : Text) (position : Nat) : MarkupError :=
  .tag ("closing tag '[" ++ inside ++ "]' at position " ++ Text.ofNat position ++
    " doesn't match any open tag")

/-- The mistake of a closing tag at a position where nothing is open. -/
def nothingOpen (position : Nat) : MarkupError :=
  .tag ("closing tag '[/]' at position " ++ Text.ofNat position ++ " has nothing to close")

/-- The open tags, last one first, after a tag at a position. -/
def openAfter (opened : List OpenTag) (inside : Text) (position : Nat) :
    Except MarkupError (List OpenTag) := do
  match tagName inside with
  | .scalar '/' :: name =>
    if Text.trim name = [] then
      match opened with
      | [] => throw (nothingOpen position)
      | _ :: opened => return opened
    else
      let name ← normalName (Text.trim name)
      match opened.find? (·.name = name) with
      | none => throw (unmatched inside position)
      | some _ => return opened.eraseP (·.name = name)
  | name => return ⟨position, ← normalName name⟩ :: opened

/-- A text in the style of the open tags. -/
def styled (opened : List OpenTag) (t : Text) : StyledText :=
  t.map (⟨·, opened.map OpenTag.place⟩)

/-- The text that pieces show, from a position on, with tags that are open. A tag after an odd
number of backslashes is text. -/
def showPieces (opened : List OpenTag) (position : Nat) :
    List Piece → Except MarkupError StyledText
  | [] => .ok []
  | .plain t :: rest => do
    let shown := Emoji.expand (freeBrackets t)
    return styled opened shown ++ (← showPieces opened (position + t.length) rest)
  | .tag n inside :: rest => do
    let after := position + n + inside.length + 2
    let before := styled opened (backslashes (n / 2))
    if n % 2 = 1 then
      let shown := Emoji.expand ("[" ++ inside ++ "]")
      return before ++ styled opened shown ++ (← showPieces opened after rest)
    else
      return before ++ (← showPieces (← openAfter opened inside (position + n)) after rest)

/-- The styled text that markup shows. Without a bracket it is the text itself. -/
def render (t : Text) : Except MarkupError StyledText :=
  if t.contains '[' then (showPieces [] 0 (pieces t)).map dropControls
  else .ok (dropControls (StyledText.plain (Emoji.expand t)))

end Markup

end JqFlow
