import JqFlow.Terminal.Table

/-!
# The screen of a terminal

## Main definitions

- `Screen.ofWidth`: the screen of a terminal that is so many cells wide
-/

namespace JqFlow

/-- The screen of a terminal that is so many cells wide. -/
def Screen.ofWidth (width : Nat) : Screen where
  escape := Markup.escape
  blank := Block.blank width
  markup := Block.ofMarkup width
  framed := Block.framed width
  table := Table.block width
  tree := Tree.block width

/-- A number of cells stands for the screen of a terminal that is so wide. -/
instance : Coe Nat Screen := ⟨Screen.ofWidth⟩

end JqFlow
