import JqFlow.Terminal.Markup
import JqFlow.Terminal.Wrap

/-!
# Blocks

What a terminal shows is a list of lines. Markup is shown as wrapped lines, or in a frame with a
title, or as a tree whose branches are drawn beside the labels.

## Main definitions

- `Block.ofMarkup`, `Block.blank`: wrapped text, and an empty line
- `Block.framed`: a frame with a title
- `Tree.block`: a tree of labels
-/

namespace JqFlow

namespace Block

/-- One empty line. Without any cells nothing is shown. -/
def blank (width : Nat) : Block :=
  .ok (if width = 0 then [] else [[]])

/-- Styled text in lines of a width, each of them in runs. Without any cells nothing is shown. -/
def wrap (width : Nat) (s : StyledText) : List Line :=
  if width = 0 then [] else (Wrap.lines .fold .ragged width s).map StyledText.runs

/-- Markup in lines of a width. -/
def ofMarkup (width : Nat) (markup : Text) : Block := do
  return (wrap width (← Markup.render markup)).map fun line => (line.crop width).flatten

/-- A text so many times. -/
def repeated (n : Nat) (t : Text) : Text :=
  (List.replicate n t).flatten

/-- The number of cells of the edges of a frame with the spaces inside. -/
def frameWidth : Nat := 4

/-- The upper edge of a frame with a title in the middle. -/
def upperEdge (width : Nat) (title : Text) : Text :=
  let inner := width - frameWidth
  let title := Text.spaces 1 ++ title ++ Text.spaces 1
  let title := if Text.cells title > inner then Text.fitTo inner title else title
  let free := inner - Text.cells title
  "╭─" ++ repeated (free / 2) "─" ++ title ++ repeated (free - free / 2) "─" ++ "─╮"

/-- Markup in a frame with a title, on a terminal that is wider than the frame alone. -/
def framed (width : Nat) (title markup : Text) : Block := do
  let title ← Markup.render title
  let inside := wrap (width - frameWidth) (← Markup.render markup)
  return [upperEdge width title.text] ++
    inside.map (fun line =>
      ("│ " : Text) ++ (line.fit (width - frameWidth)).flatten ++ (" │" : Text)) ++
    ["╰" ++ repeated (width - 2) "─" ++ "╯"]

end Block

namespace Tree

/-- The lines of a label after the branches that lead to it: one text before its first line, and one
before the others. A label without any cells is not looked at. -/
def labelLines (width : Nat) (first others label : Text) : Block :=
  if width ≤ Text.cells first then .ok []
  else do
    match ← Block.ofMarkup (width - Text.cells first) label with
    | [] => return []
    | line :: lines => return (first ++ line) :: lines.map (others ++ ·)

mutual

/-- The lines of a tree, with what stands before the first line and before the others. -/
def blockFrom (width : Nat) (first others : Text) : Tree → Block
  | .node label children => do
    return (← labelLines width first others label) ++ (← blocks width others children)

/-- The lines of the trees below a label, with what stands before them. -/
def blocks (width : Nat) (before : Text) : List Tree → Block
  | [] => .ok []
  | [t] => blockFrom width (before ++ "└── ") (before ++ "    ") t
  | t :: ts => do
    return (← blockFrom width (before ++ "├── ") (before ++ "│   ") t) ++
      (← blocks width before ts)

end

/-- The lines of a tree. -/
def block (width : Nat) (t : Tree) : Block :=
  blockFrom width [] [] t

end Tree

end JqFlow
