import JqFlow.Graph.Basic

/-!
# Looking into a graph

## Main definitions

- `Graph.summary`: how much there is
- `Graph.outDegrees`: how many edges leave each id, counted in a table
- `Graph.rows`: the elements as a list
- `Graph.inspect?`: one element with its edges
- `Graph.outline`: the nesting of the elements
-/

namespace JqFlow

/-- How much there is in a graph. The depth is that of the deepest nesting in containers. -/
structure Summary where
  nodes : Nat
  containers : Nat
  edges : Nat
  depth : Nat
  deriving DecidableEq

/-- One element in a list of elements, with the number of edges that leave it. -/
structure ElementRow where
  id : Id
  path : Text
  label : Text
  shape : Shape
  outDegree : Nat
  deriving DecidableEq

/-- One element with the ids before it and after it. -/
structure ElementDetail where
  id : Id
  path : Text
  label : Text
  shape : Shape
  detail : Option Text
  incoming : List Id
  outgoing : List Id
  deriving DecidableEq

/-- An element with those inside it, as far as an outline shows them. -/
inductive Outline
  | item (id label : Text) (inside : List Outline)

mutual

/-- The outline of an element. -/
def Element.outline : Element → Outline
  | .node id label _ _ => .item id label []
  | .container id label children _ => .item id label (Element.outlines children)

/-- The outlines of several elements. -/
def Element.outlines : List Element → List Outline
  | [] => []
  | e :: es => e.outline :: Element.outlines es

end

namespace Graph

/-- How much there is in a graph. -/
def summary (g : Graph) : Summary where
  nodes := g.walk.countP fun (_, e) => !e.isContainer
  containers := g.walk.countP fun (_, e) => e.isContainer
  edges := g.edges.length
  depth := (g.walk.map fun (ancestors, _) => ancestors.length).foldl max 0

/-- One edge more that leaves its source. The last count of an id stands before earlier ones. -/
def countSource (counts : List (Id × Nat)) (e : Edge) : List (Id × Nat) :=
  (e.source, (counts.lookup e.source).getD 0 + 1) :: counts

/-- The number of edges that leave each id, where there are any. -/
def outDegrees (g : Graph) : List (Id × Nat) :=
  g.edges.foldl countSource []

/-- The elements in order of declaration, only those of the given shapes if any are given. -/
def rows (g : Graph) (shapes : List Shape) : List ElementRow :=
  let counts := g.outDegrees
  g.walk.filterMap fun (ancestors, e) =>
    if shapes.isEmpty || shapes.contains e.shape then
      some ⟨e.id, dotted ancestors e.id, e.label, e.shape, (counts.lookup e.id).getD 0⟩
    else none

/-- The element with the given id, with its edges. -/
def inspect? (g : Graph) (id : Id) : Option ElementDetail := do
  let e ← g.get? id
  let path ← g.pathOf? id
  return {
    id := e.id
    path := path
    label := e.label
    shape := e.shape
    detail := e.detail
    incoming := (g.edges.filter fun edge => edge.target = id).map Edge.source
    outgoing := (g.edges.filter fun edge => edge.source = id).map Edge.target }

/-- The nesting of the elements of a graph, below an item for the graph itself. -/
def outline (g : Graph) : Outline :=
  .item "graph" "graph" (Element.outlines g.elements)

end Graph

end JqFlow
