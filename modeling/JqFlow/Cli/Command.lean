import JqFlow.Query.Label
import JqFlow.Settings

/-!
# Commands

What the program can be asked for: a command with a query, an output, and settings of its own.

## Main definitions

- `Overrides`, `Settings.override`: settings given with a command
- `Command`: commands
-/

namespace JqFlow

/-- Settings given with a command. -/
structure Overrides where
  renderer : Option Text := none
  layout : Option Text := none
  timeout : Option Seconds := none
  title : Option Text := none
  expandGroups : Option Bool := none

/-- Settings with some of them replaced. -/
def Settings.override (s : Settings) (o : Overrides) : Settings :=
  { s with
    renderer := o.renderer.getD s.renderer
    layout := o.layout.or s.layout
    timeout := o.timeout.or s.timeout
    title := o.title.getD s.title
    expandGroups := o.expandGroups.getD s.expandGroups }

/-- What is to be done. -/
inductive Command
  /-- Render the diagram of a query to a file. -/
  | render (query : Text) (output : Path) (o : Overrides)
  /-- Print the script of a query, or write it to a file. -/
  | script (query : Text) (output : Option Path) (o : Overrides)
  /-- Check a query, and say how much there is in its diagram. -/
  | check (query : Text)
  /-- List the elements of a diagram, or show one of them, or the nesting. -/
  | inspect (query : Text) (node : Option Text) (shapes : List Shape) (tree : Bool) (o : Overrides)

end JqFlow
