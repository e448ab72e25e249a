import JqFlow.Graph.Basic

/-!
# Drawing a query

The graph of a query is drawn with a cursor: what is drawn next is connected to the element drawn
last. Pipes draw nothing of their own. Any other operator is a node that its operands branch out of
and return to. Calls, arrays and objects are containers, and what is inside starts from the
container, so what stands in different arguments is never connected.

## Main definitions

- `Builder`: a drawing under way
- `Builder.connect`, `Builder.addNode`, `Builder.openContainer`, `Builder.closeContainer`: the
  steps of drawing
- `Query.pipeOperands`: the operands of pipes that may be nested in each other
- `Builder.visit`: draws a query
- `Graph.build`: the graph of a query
- `Query.undrawable?`: the part of a query for want of which it has no graph

## Design notes

A container is filed in the scope around it when it is closed. Closing takes the innermost scope
away before it looks whether that is the outermost one, which cannot be closed.

The sides of a pipe are drawn one after the other, which draws its operands in their order however
the pipes in it are grouped.
-/

namespace JqFlow

/-- A container that is being filled: its id, its label and its detail. -/
structure Opened where
  id : Id
  label : Text
  detail : Option Text
  deriving DecidableEq

/-- The elements collected so far for a container, or for the top level. -/
structure Scope where
  container : Option Opened
  elements : List Element

/-- A drawing under way. -/
structure Builder where
  /-- Are parenthesized queries drawn as containers? -/
  expandGroups : Bool
  /-- The number of the next id. -/
  counter : Nat
  /-- The element drawn last. -/
  cursor : Id
  edges : List Edge
  /-- The pairs of ids that have been connected, last one first. -/
  connected : List (Id × Id)
  /-- The scopes that are open, innermost first. -/
  scopes : List Scope
  /-- The types of the values of elements, as far as they are known, last one first. -/
  types : List (Id × ValueType)
  /-- Has the cursor just been put at the head of a branch? -/
  branching : Bool

/-- A step of drawing that is not allowed. -/
inductive BuildError
  | closesTopLevel
  /-- No scope is open that could be closed. -/
  | nothingOpen
  /-- No scope is open in which an element could be filed. -/
  | noScope
  deriving DecidableEq

/-- A build error in words. -/
def BuildError.message : BuildError → Text
  | closesTopLevel => "Cannot close the top-level scope"
  | nothingOpen => "pop from empty list"
  | noScope => "list index out of range"

namespace Query

/-- The total size of the queries on a stack. -/
noncomputable def stackSize : List Query → Nat
  | [] => 0
  | q :: stack => sizeOf q + 1 + stackSize stack

theorem stackSize_toList_append (q : Option Query) (stack : List Query) :
    stackSize (q.toList ++ stack) ≤ sizeOf q + stackSize stack := by
  cases q with
  | none => exact Nat.le_add_left _ _
  | some q =>
    simp only [Option.toList_some, List.singleton_append, stackSize, Option.some.sizeOf_spec]
    omega

/-- The operands of the queries on a stack, from its top down, after those that were found before. A
pipe gives way to its sides, the left one on top. -/
def pipeOperandsFrom (stack operands : List Query) : List Query :=
  match stack with
  | [] => operands
  | operation .pipe l r :: stack => pipeOperandsFrom (l.toList ++ (r.toList ++ stack)) operands
  | q :: stack => pipeOperandsFrom stack (operands ++ [q])
termination_by stackSize stack
decreasing_by
  · have hleft := stackSize_toList_append l (r.toList ++ stack)
    have hright := stackSize_toList_append r stack
    simp only [stackSize, operation.sizeOf_spec]
    omega
  · simp only [stackSize]
    omega

/-- The operands of a query, from left to right: those of the sides of a pipe, and a query of any
other kind alone. -/
def pipeOperands (q : Query) : List Query :=
  pipeOperandsFrom [q] []

end Query

namespace Builder

/-- A drawing with nothing in it. -/
def empty (expandGroups : Bool) : Builder where
  expandGroups := expandGroups
  counter := 0
  cursor := Graph.startId
  edges := []
  connected := []
  scopes := [⟨none, []⟩]
  types := []
  branching := false

/-- An id with the given beginning that has not been used, for an element. -/
def nextId (start : Text) (b : Builder) : Id × Builder :=
  (start ++ "_" ++ Text.ofNat b.counter, { b with counter := b.counter + 1 })

/-- Connects two elements, unless they are one or are connected already. The edge has the type of
its source as its label, unless it begins a branch. -/
def connect (source target : Id) (b : Builder) : Builder :=
  let label := if b.branching then none else (b.types.lookup source).map ValueType.name
  let b := { b with branching := false }
  if source = target || b.connected.contains (source, target) then b
  else
    { b with
      connected := (source, target) :: b.connected
      edges := b.edges ++ [⟨source, target, label⟩] }

/-- Puts the cursor at the head of a branch. -/
def startBranch (seed : Id) (b : Builder) : Builder :=
  { b with cursor := seed, branching := true }

/-- Notes the type of the values of the query that an element is drawn for. -/
def recordType (id : Id) (source : Option Query) (b : Builder) : Builder :=
  match source.bind Query.outputType? with
  | some type => { b with types := (id, type) :: b.types }
  | none => b

/-- Puts an element at the end of the innermost scope. -/
def file (e : Element) (b : Builder) : Builder :=
  match b.scopes with
  | scope :: outer => { b with scopes := { scope with elements := scope.elements ++ [e] } :: outer }
  | [] => b

/-- Connects the cursor with an element and puts it there. -/
def moveTo (id : Id) (b : Builder) : Builder :=
  { b.connect b.cursor id with cursor := id }

/-- Draws a node and moves the cursor to it. The node is drawn for `source`. -/
def addNode (label : Text) (detail : Option Text) (source : Option Query) (b : Builder) :
    Id × Builder :=
  let (id, b) := b.nextId "node"
  (id, ((b.recordType id source).file (.node id label .rectangle detail)).moveTo id)

/-- Begins a container and moves the cursor to it. What is drawn next is inside. -/
def openContainer (label : Text) (detail : Option Text) (source : Option Query) (b : Builder) :
    Id × Builder :=
  let (id, b) := b.nextId "node"
  let b := (b.recordType id source).moveTo id
  (id, { b with scopes := ⟨some ⟨id, label, detail⟩, []⟩ :: b.scopes })

/-- Ends the innermost container, files it in the scope around it and moves the cursor to it. -/
def close (b : Builder) : Builder :=
  match b.scopes with
  | ⟨some c, elements⟩ :: outer =>
    { ({ b with scopes := outer } : Builder).file (.container c.id c.label elements c.detail) with
      cursor := c.id }
  | _ => b

/-- Ends the innermost container, if there is one with a scope around it. Else nothing but the
innermost scope is gone. -/
def closeContainer (b : Builder) : Option BuildError × Builder :=
  match b.scopes with
  | ⟨some _, _⟩ :: _ :: _ => (none, b.close)
  | [⟨some _, _⟩] => (some .noScope, { b with scopes := [] })
  | ⟨none, _⟩ :: outer => (some .closesTopLevel, { b with scopes := outer })
  | [] => (some .nothingOpen, b)

mutual

/-- Draws a query from the cursor on. -/
def visit : Query → Builder → Builder
  | .operation .pipe l r, b => visitOption r (visitOption l b)
  | .operation op l r, b =>
    let (id, b) := b.addNode op.label none (some (.operation op l r))
    visitOperand id r (visitOperand id l b)
  | .unary op operand, b =>
    let (id, b) := b.addNode (Query.unary op operand).title none (some (.unary op operand))
    (visit operand (b.startBranch id)).moveTo id
  | .call name args, b =>
    let q := Query.call name args
    let (id, b) := b.openContainer (functionTitle name) (some q.title) (some q)
    (visitArgs id args b).close
  | .array body, b =>
    let q := Query.array body
    let (id, b) := b.openContainer q.title none (some q)
    (visitBody id body b).close
  | .object entries, b =>
    let q := Query.object entries
    let (id, b) := b.openContainer q.title none (some q)
    (visitEntries id entries b).close
  | .bind source name body, b =>
    let q := Query.bind source name body
    let b := visit source b
    visit body (b.addNode q.title none (some q)).2
  | .group body, b =>
    let q := Query.group body
    if b.expandGroups then
      let (id, b) := b.openContainer q.title none none
      (visit body (b.startBranch id)).close
    else (b.addNode q.title none (some q)).2
  | q, b => (b.addNode q.title none (some q)).2

/-- Draws one side of a pipe, if it is there. -/
def visitOption : Option Query → Builder → Builder
  | none, b => b
  | some q, b => visit q b

/-- Draws an operand of an operator: a branch out of its node and back to it. -/
def visitOperand (id : Id) : Option Query → Builder → Builder
  | none, b => b
  | some q, b => (visit q (b.startBranch id)).moveTo id

/-- Draws what is inside a container, if there is something. -/
def visitBody (id : Id) : Option Query → Builder → Builder
  | none, b => b
  | some q, b => visit q (b.startBranch id)

/-- Draws the arguments of a call, each from the container of the call. Parentheses around an
argument are not drawn. -/
def visitArgs (id : Id) : List Query → Builder → Builder
  | [], b => b
  | .group q :: args, b => visitArgs id args (visit q (b.startBranch id))
  | q :: args, b => visitArgs id args (visit q (b.startBranch id))

/-- Draws the entries of an object, each in a container of its own. Parentheses around a value are
not drawn. -/
def visitEntries (id : Id) : List (Entry Query) → Builder → Builder
  | [], b => b
  | ⟨key, .group value, _⟩ :: entries, b =>
    let (keyId, b) := (b.startBranch id).openContainer (objectKeyTitle key) none none
    visitEntries id entries (visit value (b.startBranch keyId)).close
  | ⟨key, value, _⟩ :: entries, b =>
    let (keyId, b) := (b.startBranch id).openContainer (objectKeyTitle key) none none
    visitEntries id entries (visit value (b.startBranch keyId)).close

end

/-- Draws a query as a branch from `seed`. -/
def visitBranch (seed : Id) (q : Query) (b : Builder) : Builder :=
  visit q (b.startBranch seed)

end Builder

namespace Query

mutual

/-- The first part of a query for want of which it has no graph, in the order of drawing. -/
def undrawable? (expandGroups : Bool) : Query → Option Unprintable
  | operation _ l r => undrawableOption? expandGroups l <|> undrawableOption? expandGroups r
  | unary _ operand => undrawable? expandGroups operand
  | call _ args => undrawableArgs? expandGroups args
  | array body => undrawableOption? expandGroups body
  | object entries => undrawableEntries? expandGroups entries
  | bind source _ body => undrawable? expandGroups source <|> undrawable? expandGroups body
  | group body => if expandGroups then undrawable? expandGroups body else none
  | q => q.unlabelled?

/-- What keeps an optional query from being drawn. -/
def undrawableOption? (expandGroups : Bool) : Option Query → Option Unprintable
  | none => none
  | some q => undrawable? expandGroups q

/-- What keeps arguments from being drawn. -/
def undrawableArgs? (expandGroups : Bool) : List Query → Option Unprintable
  | [] => none
  | group q :: args => undrawable? expandGroups q <|> undrawableArgs? expandGroups args
  | q :: args => undrawable? expandGroups q <|> undrawableArgs? expandGroups args

/-- What keeps entries from being drawn. -/
def undrawableEntries? (expandGroups : Bool) : List (Entry Query) → Option Unprintable
  | [] => none
  | ⟨_, group q, _⟩ :: entries =>
    undrawable? expandGroups q <|> undrawableEntries? expandGroups entries
  | ⟨_, q, _⟩ :: entries =>
    undrawable? expandGroups q <|> undrawableEntries? expandGroups entries

end

end Query

namespace Graph

/-- A drawing with the start node in it. -/
def begin (expandGroups : Bool) : Builder :=
  (Builder.empty expandGroups).file (.node startId "Start" .circle none)

/-- The graph of a drawing: the end node is added after what has been drawn last. -/
def finish (b : Builder) : Graph :=
  let id := "end_" ++ Text.ofNat b.counter
  let b := b.file (.node id "End" .circle none)
  let b := if b.cursor = startId then b else b.connect b.cursor id
  ⟨(b.scopes.getLast?.map Scope.elements).getD [], b.edges, id⟩

/-- The graph of a query, with the start node first and the end node last. Parts for want of which
it has none are left out of labels. -/
def build (q : Option Query) (expandGroups : Bool) : Graph :=
  finish (Builder.visitOption q (begin expandGroups))

/-- The graph of a query, or the first part for want of which it has none. -/
def build? (q : Option Query) (expandGroups : Bool) : Except Unprintable Graph :=
  match Query.undrawableOption? expandGroups q with
  | some part => .error part
  | none => .ok (build q expandGroups)

end Graph

end JqFlow
