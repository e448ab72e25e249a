import JqFlow.Terminal.Width

/-!
# Graphemes

What a terminal shows as one picture may be several code points: marks belong to the code point
before them, a joiner makes one picture of its neighbours, and a pictograph in colour may take more
cells than the same code point alone. A text is therefore measured as a whole, and it is cut only
between its graphemes.

## Main definitions

- `Text.cells`: how many cells a text takes
- `Grapheme`, `Text.graphemes`: the pictures of a text
- `Text.fitTo`: a text cut or filled up to a number of cells
- `Text.chop`: a text cut into parts that fit into a number of cells
-/

namespace JqFlow

/-- The code points of one picture and the number of cells that it takes. -/
structure Grapheme where
  text : Text
  cells : Nat

namespace Text

/-- The number of cells that a text takes after a code point that a mark of colour would change. -/
def cellsFrom (last : Option CodePoint) : Text → Nat
  | [] => 0
  | c :: rest =>
    if c = CodePoint.joiner then
      match rest with
      | [] => 0
      | _ :: rest => cellsFrom last rest
    else if c = CodePoint.colourMark then
      (if last.any CodePoint.widens then 1 else 0) + cellsFrom none rest
    else if c.cells = 0 then cellsFrom last rest
    else c.cells + cellsFrom (some c) rest

/-- The number of cells that a text takes. What comes after a joiner takes none. -/
def cells (t : Text) : Nat :=
  cellsFrom none t

/-- The graphemes of a text, the first of which may have begun, after a code point that a mark of
colour would change. -/
def graphemesFrom (last : Option CodePoint) (begun : Option Grapheme) : Text → List Grapheme
  | [] => begun.toList
  | c :: rest =>
    match begun with
    | none => graphemesFrom (if c.cells = 0 then last else some c) (some ⟨[c], c.cells⟩) rest
    | some g =>
      if c = CodePoint.joiner then
        match rest with
        | [] => [⟨g.text ++ [c], g.cells⟩]
        | d :: rest => graphemesFrom last (some ⟨g.text ++ [c, d], g.cells⟩) rest
      else if c = CodePoint.colourMark ∧ last.any CodePoint.widens then
        graphemesFrom none (some ⟨g.text ++ [c], g.cells + 1⟩) rest
      else if c.cells = 0 then graphemesFrom last (some ⟨g.text ++ [c], g.cells⟩) rest
      else g :: graphemesFrom (some c) (some ⟨[c], c.cells⟩) rest

/-- The graphemes of a text. -/
def graphemes (t : Text) : List Grapheme :=
  graphemesFrom none none t

/-- So many spaces. -/
def spaces (n : Nat) : Text :=
  List.replicate n (CodePoint.scalar ' ')

/-- The first graphemes that take so many cells. Where a grapheme of two cells would stand half
outside, there is a space. -/
def takeCells : Nat → List Grapheme → Text
  | 0, _ => []
  | _, [] => []
  | n, g :: rest => if g.cells > n then spaces 1 else g.text ++ takeCells (n - g.cells) rest

/-- A text cut or filled up with spaces to a number of cells. -/
def fitTo (total : Nat) (t : Text) : Text :=
  if total = 0 then []
  else if cells t ≤ total then t ++ spaces (total - cells t)
  else takeCells total (graphemes t)

/-- Graphemes after `line`, which takes `size` cells, in parts that fit into the width. -/
def chopFrom (width : Nat) (line : Text) (size : Nat) : List Grapheme → List Text
  | [] => [line]
  | g :: rest =>
    if size + g.cells > width then line :: chopFrom width g.text g.cells rest
    else chopFrom width (line ++ g.text) (size + g.cells) rest

/-- A text cut into parts that fit into the width. The first part is empty if not even one grapheme
fits. -/
def chop (width : Nat) (t : Text) : List Text :=
  chopFrom width [] 0 (graphemes t)

end Text

end JqFlow
