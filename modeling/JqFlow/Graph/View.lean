import JqFlow.Graph.Inspect
import JqFlow.Screen

/-!
# Views of a graph

What a screen shows of a graph: how much there is, the elements as a table, one element with its
edges, or the nesting as a tree. Labels are shown as they are; ids are taken for markup.

## Main definitions

- `Summary.view`, `ElementRow.view`, `ElementDetail.view`, `Outline.view`: what is shown
- `Shape.style`: the style in which a shape is named
-/

namespace JqFlow

/-- The style in which a shape is named. -/
def Shape.style : Shape → Text
  | circle => "magenta"
  | rectangle => "green"
  | container => "blue"

/-- The name of a shape in capitals, as markup. -/
def Shape.markup (s : Shape) : Text :=
  let name : Text :=
    match s with
    | circle => "CIRCLE"
    | rectangle => "RECTANGLE"
    | container => "CONTAINER"
  "[" ++ s.style ++ "]" ++ name ++ "[/" ++ s.style ++ "]"

/-- A table with the numbers of a summary. -/
def Summary.view (screen : Screen) (s : Summary) : List Block :=
  let columns := [("Nodes", s.nodes), ("Containers", s.containers), ("Edges", s.edges),
    ("Nesting", s.depth)]
  [screen.table
    ⟨columns.map fun (title, _) => ⟨title, .right⟩,
      [columns.map fun (_, n) => Text.ofNat n]⟩]

namespace ElementRow

/-- A longer path is shown by its end. -/
def pathWidth : Nat := 60

/-- A path as it stands in a table. -/
def shownPath (path : Text) : Text :=
  if path.length > pathWidth then "..." ++ path.drop (path.length - (pathWidth - 3)) else path

/-- The cells of a row. -/
def cells (screen : Screen) (r : ElementRow) : List Text :=
  [shownPath r.path, screen.escape r.label, r.shape.markup, Text.ofNat r.outDegree]

/-- A table of elements, and how many there are. -/
def view (screen : Screen) (rows : List ElementRow) : List Block :=
  if rows = [] then [screen.markup "[dim]No nodes match the given filters[/dim]"]
  else
    [screen.table
      ⟨[⟨"Path", .left⟩, ⟨"Label", .left⟩, ⟨"Shape", .left⟩, ⟨"Out", .right⟩],
        rows.map (cells screen)⟩,
      screen.markup ("\n[dim]Total: " ++ Text.ofNat rows.length ++ " nodes[/dim]")]

end ElementRow

namespace ElementDetail

/-- The ids at the other ends of edges, below a heading. -/
def ends (screen : Screen) (heading : Text) (ids : List Id) : List Block :=
  if ids = [] then [screen.markup ("[cyan]" ++ heading ++ ":[/cyan] [dim]None[/dim]")]
  else
    screen.markup ("[cyan]" ++ heading ++ " (" ++ Text.ofNat ids.length ++ "):[/cyan]") ::
      ids.map fun id => screen.markup ("  " ++ id)

/-- The detail of an element, if it has any to show. -/
def detailLine (screen : Screen) (detail : Option Text) : List Block :=
  match detail with
  | some t => if t = [] then [] else [screen.markup ("[cyan]Detail:[/cyan]  " ++ screen.escape t)]
  | none => []

/-- One element with its edges. -/
def view (screen : Screen) (d : ElementDetail) : List Block :=
  [screen.markup ("[bold]Node:[/bold] " ++ d.path), screen.blank,
    screen.markup ("[cyan]Label:[/cyan]   " ++ screen.escape d.label),
    screen.markup ("[cyan]Shape:[/cyan]   " ++ d.shape.markup)] ++
    detailLine screen d.detail ++ [screen.blank] ++
    ends screen "Incoming" d.incoming ++ ends screen "Outgoing" d.outgoing

end ElementDetail

namespace Outline

mutual

/-- The tree of an item below the root. -/
def branch (screen : Screen) : Outline → Tree
  | .item id label inside =>
    .node (screen.escape label ++ " [dim](" ++ id ++ ")[/dim]") (branches screen inside)

/-- The trees of several items. -/
def branches (screen : Screen) : List Outline → List Tree
  | [] => []
  | o :: os => branch screen o :: branches screen os

end

/-- An outline as a tree. -/
def view (screen : Screen) : Outline → List Block
  | .item _ label inside =>
    [screen.tree (.node ("[bold]" ++ screen.escape label ++ "[/bold]") (branches screen inside))]

end Outline

end JqFlow
