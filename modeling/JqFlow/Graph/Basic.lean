import JqFlow.Query.Label

/-!
# Flow graphs

A flow graph is a forest of nodes and containers with edges between them. Elements and the ends of
edges are known by their ids.

## Main definitions

- `Element`: a node, or a container with elements in it
- `Edge`, `Graph`
- `Graph.walk`: every element with the ids of the containers around it, each container before what
  it contains; `Graph.walk_eq_preorder` gives the same by recursion on the forest
- `Graph.paths`, `Graph.pathOf?`, `Graph.get?`: finding elements by their ids

## Design notes

The walk keeps a list of what is still to be visited. It ends because what it puts back for a
container is smaller than the container.
-/

namespace JqFlow

/-- The name by which an element is known in its graph. -/
abbrev Id := Text

/-- A drawn element: a node, or a container with elements in it. -/
inductive Element
  | node (id label : Text) (shape : Shape) (detail : Option Text)
  | container (id label : Text) (children : List Element) (detail : Option Text)
  deriving Inhabited

namespace Element

def id : Element → Id
  | node id .. | container id .. => id

def label : Element → Text
  | node _ label .. | container _ label .. => label

/-- A longer description. -/
def detail : Element → Option Text
  | node _ _ _ detail | container _ _ _ detail => detail

def shape : Element → Shape
  | node _ _ shape _ => shape
  | container .. => .container

/-- The elements directly inside an element. -/
def children : Element → List Element
  | node .. => []
  | container _ _ children _ => children

def isContainer : Element → Bool
  | node .. => false
  | container .. => true

mutual

/-- The number of elements of a tree of elements. -/
def size : Element → Nat
  | node .. => 1
  | container _ _ children _ => 1 + sizeList children

/-- The number of elements of a forest. -/
def sizeList : List Element → Nat
  | [] => 0
  | e :: es => size e + sizeList es

end

mutual

/-- The elements of a tree of elements, each with the ids of the containers around it, from the
outside in; a container stands before its children. -/
def preorder (ancestors : List Id) : Element → List (List Id × Element)
  | node id label shape detail => [(ancestors, node id label shape detail)]
  | container id label children detail =>
    (ancestors, container id label children detail) :: preorderList (ancestors ++ [id]) children

/-- The elements of a forest, tree by tree. -/
def preorderList (ancestors : List Id) : List Element → List (List Id × Element)
  | [] => []
  | e :: es => preorder ancestors e ++ preorderList ancestors es

end

end Element

/-- A directed connection, with the type of the values that it carries if it can be told. -/
structure Edge where
  source : Id
  target : Id
  label : Option Text
  deriving DecidableEq, Inhabited

/-- The ends of an edge. -/
def Edge.ends (e : Edge) : Id × Id := (e.source, e.target)

/-- A flow graph. -/
structure Graph where
  elements : List Element
  edges : List Edge
  endId : Id

namespace Graph

/-- The id of the node at which every flow begins. -/
def startId : Id := "start"

/-- The total size of what is still to be visited. -/
def pendingSize : List (List Id × Element) → Nat
  | [] => 0
  | (_, e) :: rest => e.size + pendingSize rest

theorem pendingSize_append (pending rest : List (List Id × Element)) :
    pendingSize (pending ++ rest) = pendingSize pending + pendingSize rest := by
  induction pending with
  | nil => simp [pendingSize]
  | cons p ps ih =>
    simp only [List.cons_append, pendingSize, ih]
    omega

/-- The elements put back for a container, with the container's id added to what is around them. -/
def within (ancestors : List Id) (e : Element) : List (List Id × Element) :=
  e.children.map fun child => (ancestors ++ [e.id], child)

theorem pendingSize_map (ancestors : List Id) (es : List Element) :
    pendingSize (es.map fun e => (ancestors, e)) = Element.sizeList es := by
  induction es with
  | nil => rfl
  | cons e es ih => simp only [List.map_cons, pendingSize, Element.sizeList, ih]

/-- What is put back for an element is everything of it but the element itself. -/
theorem pendingSize_within (ancestors : List Id) (e : Element) :
    pendingSize (within ancestors e) + 1 = e.size := by
  rw [within, pendingSize_map]
  cases e with
  | node => rfl
  | container id label children detail =>
    rw [Element.children, Element.size]
    omega

/-- Visits what is pending: the first of it, then what it contains, then the rest. -/
def walkFrom (pending : List (List Id × Element)) : List (List Id × Element) :=
  match pending with
  | [] => []
  | (ancestors, e) :: rest => (ancestors, e) :: walkFrom (within ancestors e ++ rest)
termination_by pendingSize pending
decreasing_by
  have := pendingSize_within ancestors e
  simp only [pendingSize_append, pendingSize]
  omega

/-- Every element in order of declaration, with the ids of the containers around it. -/
def walk (g : Graph) : List (List Id × Element) :=
  walkFrom (g.elements.map fun e => ([], e))

theorem flatMap_preorder (ancestors : List Id) (es : List Element) :
    ((es.map fun e => (ancestors, e)).flatMap fun p : List Id × Element => p.2.preorder p.1) =
      Element.preorderList ancestors es := by
  induction es with
  | nil => rfl
  | cons e es ih => rw [List.map_cons, List.flatMap_cons, ih, Element.preorderList]

theorem walkFrom_eq_flatMap (pending : List (List Id × Element)) :
    walkFrom pending = pending.flatMap fun p => p.2.preorder p.1 := by
  fun_induction walkFrom pending with
  | case1 => rfl
  | case2 ancestors e rest ih =>
    rw [ih, List.flatMap_append, List.flatMap_cons, within, flatMap_preorder]
    cases e <;> rfl

/-- The walk is the preorder of the forest. -/
theorem walk_eq_preorder (g : Graph) : g.walk = Element.preorderList [] g.elements := by
  rw [walk, walkFrom_eq_flatMap, flatMap_preorder]

/-- Every element in order of declaration. -/
def nodes (g : Graph) : List Element :=
  g.walk.map Prod.snd

/-- The ids of the elements in order of declaration. -/
def ids (g : Graph) : List Id :=
  g.nodes.map Element.id

/-- The number of elements. -/
def size (g : Graph) : Nat :=
  g.walk.length

/-- The labels of the elements in order of declaration. -/
def labels (g : Graph) : List Text :=
  g.nodes.map Element.label

/-- The containers in order of declaration. -/
def containers (g : Graph) : List Element :=
  g.nodes.filter Element.isContainer

/-- The first element with the given id. -/
def get? (g : Graph) (id : Id) : Option Element :=
  g.nodes.find? fun e => e.id = id

/-- Is there an element with the given id? -/
def contains (g : Graph) (id : Id) : Bool :=
  g.nodes.any fun e => e.id = id

/-- The ids on the way to an element, joined by dots. -/
def dotted (ancestors : List Id) (id : Id) : Text :=
  Text.join "." (ancestors ++ [id])

/-- The path of every element from the top, in order of declaration. -/
def paths (g : Graph) : List (Id × Text) :=
  g.walk.map fun (ancestors, e) => (e.id, dotted ancestors e.id)

/-- The path of the last element with the given id. -/
def pathOf? (g : Graph) (id : Id) : Option Text :=
  g.paths.reverse.lookup id

/-- The ends of the edges. -/
def edgePairs (g : Graph) : List (Id × Id) :=
  g.edges.map Edge.ends

/-- The ids that edges name and no element has, each once, in the order of their texts. -/
def undeclared (g : Graph) : List Id :=
  let named := g.edges.flatMap fun e => [e.source, e.target]
  (named.eraseDups.filter fun id => !g.contains id).mergeSort Text.le

end Graph

end JqFlow
