import JqFlow.Graph.Builder

/-!
# What a query draws

The drawing of a query without ids and edges. A flow is a sequence of figures, each drawn after the
one before it. An operator is a fork that every operand branches out of and returns to; calls,
arrays and objects are boxes with a flow for each branch inside.

## Main definitions

- `Figure`: a mark, a fork or a box
- `Query.figures`: the flow of a query
- `Figure.draw`: draws a figure with the steps of a `Builder`

## Main statements

- `drawFlow_keeps`: what every step of drawing keeps, drawing a flow keeps
- `Builder.visit_eq_drawFlow`: visiting a query draws its flow

## Design notes

Figures keep only the type of what they are drawn for. Two queries with the same flow have the same
graph, whatever else tells them apart.
-/

namespace JqFlow

/-- A drawn figure: a rectangle, an operator with the flows of its operands, or a container with
the flows inside it. -/
inductive Figure
  | mark (label : Text) (type : Option ValueType)
  | fork (label : Text) (type : Option ValueType) (operands : List (List Figure))
  | box (label : Text) (detail : Option Text) (type : Option ValueType)
    (branches : List (List Figure))

/-- The type of the values that leave a figure, if it can be told. -/
def Figure.type : Figure → Option ValueType
  | mark _ type | fork _ type _ | box _ _ type _ => type

namespace Query

/-- A query without the parentheses around it, of which at most one pair is taken away. -/
def unwrapped : Query → Query
  | group q => q
  | q => q

mutual

/-- The flow of a query. -/
def figures (expand : Bool) : Query → List Figure
  | operation .pipe l r => sideFigures expand l ++ sideFigures expand r
  | operation op l r =>
    [.fork op.label (operation op l r).outputType? (branchOf expand l ++ branchOf expand r)]
  | unary op operand =>
    [.fork (unary op operand).title (unary op operand).outputType? [figures expand operand]]
  | call name args =>
    [.box (functionTitle name) (some (call name args).title) (call name args).outputType?
      (argFigures expand args)]
  | array body =>
    [.box (array body).title none (array body).outputType? (branchOf expand body)]
  | object entries =>
    [.box (object entries).title none (object entries).outputType? (entryFigures expand entries)]
  | bind source name body =>
    figures expand source ++
      .mark (bind source name body).title (bind source name body).outputType? ::
        figures expand body
  | group body =>
    if expand then [.box (group body).title none none [figures expand body]]
    else [.mark (group body).title (group body).outputType?]
  | q => [.mark q.title q.outputType?]

/-- The flow of one side of a pipe, which may be absent. -/
def sideFigures (expand : Bool) : Option Query → List Figure
  | none => []
  | some q => figures expand q

/-- A branch for a part that may be absent. -/
def branchOf (expand : Bool) : Option Query → List (List Figure)
  | none => []
  | some q => [figures expand q]

/-- A branch for each argument, without its parentheses. -/
def argFigures (expand : Bool) : List Query → List (List Figure)
  | [] => []
  | group q :: args => figures expand q :: argFigures expand args
  | q :: args => figures expand q :: argFigures expand args

/-- A branch for each entry, with a box for its key around its value without parentheses. -/
def entryFigures (expand : Bool) : List (Entry Query) → List (List Figure)
  | [] => []
  | ⟨key, group value, _⟩ :: entries =>
    [.box (objectKeyTitle key) none none [figures expand value]] :: entryFigures expand entries
  | ⟨key, value, _⟩ :: entries =>
    [.box (objectKeyTitle key) none none [figures expand value]] :: entryFigures expand entries

end

theorem argFigures_cons (expand : Bool) (q : Query) (args : List Query) :
    argFigures expand (q :: args) = figures expand q.unwrapped :: argFigures expand args := by
  cases q <;> rfl

theorem entryFigures_cons (expand : Bool) (e : Entry Query) (entries : List (Entry Query)) :
    entryFigures expand (e :: entries) =
      [.box (objectKeyTitle e.key) none none [figures expand e.value.unwrapped]] ::
        entryFigures expand entries := by
  obtain ⟨key, value, keyExpr⟩ := e
  cases value <;> rfl

end Query

namespace Builder

/-- The id of the element with the given number. -/
def nodeId (n : Nat) : Id := "node_" ++ Text.ofNat n

/-- Notes the type of the values of an element, if it can be told. -/
def noteType (id : Id) (type : Option ValueType) (b : Builder) : Builder :=
  match type with
  | some type => { b with types := (id, type) :: b.types }
  | none => b

/-- Draws a rectangle. -/
def drawMark (label : Text) (type : Option ValueType) (b : Builder) : Builder :=
  let id := nodeId b.counter
  (({ b with counter := b.counter + 1 }.noteType id type).file
    (.node id label .rectangle none)).moveTo id

/-- Begins a container. -/
def drawOpen (label : Text) (detail : Option Text) (type : Option ValueType) (b : Builder) :
    Builder :=
  let id := nodeId b.counter
  let b := ({ b with counter := b.counter + 1 }.noteType id type).moveTo id
  { b with scopes := ⟨some ⟨id, label, detail⟩, []⟩ :: b.scopes }

theorem addNode_eq (label : Text) (source : Option Query) (b : Builder) :
    b.addNode label none source =
      (nodeId b.counter, b.drawMark label (source.bind Query.outputType?)) := by
  rfl

theorem openContainer_eq (label : Text) (detail : Option Text) (source : Option Query)
    (b : Builder) :
    b.openContainer label detail source =
      (nodeId b.counter, b.drawOpen label detail (source.bind Query.outputType?)) := by
  rfl

end Builder

mutual

/-- Draws a figure from the cursor on. -/
def Figure.draw : Figure → Builder → Builder
  | .mark label type, b => b.drawMark label type
  | .fork label type operands, b =>
    drawOperands (Builder.nodeId b.counter) operands (b.drawMark label type)
  | .box label detail type branches, b =>
    (drawBranches (Builder.nodeId b.counter) branches (b.drawOpen label detail type)).close

/-- Draws the figures of a flow, each from the one before it. -/
def drawFlow : List Figure → Builder → Builder
  | [], b => b
  | f :: fs, b => drawFlow fs (f.draw b)

/-- Draws the operands of an operator: branches out of it and back to it. -/
def drawOperands (id : Id) : List (List Figure) → Builder → Builder
  | [], b => b
  | flow :: flows, b => drawOperands id flows ((drawFlow flow (b.startBranch id)).moveTo id)

/-- Draws the branches inside a container. -/
def drawBranches (id : Id) : List (List Figure) → Builder → Builder
  | [], b => b
  | flow :: flows, b => drawBranches id flows (drawFlow flow (b.startBranch id))

end

theorem drawFlow_append (fs gs : List Figure) (b : Builder) :
    drawFlow (fs ++ gs) b = drawFlow gs (drawFlow fs b) := by
  induction fs generalizing b with
  | nil => rfl
  | cons f fs ih => exact ih (f.draw b)

theorem drawOperands_append (id : Id) (flows flows' : List (List Figure)) (b : Builder) :
    drawOperands id (flows ++ flows') b = drawOperands id flows' (drawOperands id flows b) := by
  induction flows generalizing b with
  | nil => rfl
  | cons flow flows ih => exact ih ((drawFlow flow (b.startBranch id)).moveTo id)

/-! ### No step changes whether groups are drawn as containers -/

namespace Builder

@[simp] theorem connect_expandGroups (source target : Id) (b : Builder) :
    (b.connect source target).expandGroups = b.expandGroups := by
  simp only [connect]
  split <;> rfl

@[simp] theorem moveTo_expandGroups (id : Id) (b : Builder) :
    (b.moveTo id).expandGroups = b.expandGroups :=
  connect_expandGroups b.cursor id b

@[simp] theorem startBranch_expandGroups (seed : Id) (b : Builder) :
    (b.startBranch seed).expandGroups = b.expandGroups := rfl

@[simp] theorem noteType_expandGroups (id : Id) (type : Option ValueType) (b : Builder) :
    (b.noteType id type).expandGroups = b.expandGroups := by
  cases type <;> rfl

@[simp] theorem file_expandGroups (e : Element) (b : Builder) :
    (b.file e).expandGroups = b.expandGroups := by
  simp only [file]
  split <;> rfl

@[simp] theorem drawMark_expandGroups (label : Text) (type : Option ValueType) (b : Builder) :
    (b.drawMark label type).expandGroups = b.expandGroups := by
  simp [drawMark]

@[simp] theorem drawOpen_expandGroups (label : Text) (detail : Option Text)
    (type : Option ValueType) (b : Builder) :
    (b.drawOpen label detail type).expandGroups = b.expandGroups := by
  simp [drawOpen]

@[simp] theorem close_expandGroups (b : Builder) : b.close.expandGroups = b.expandGroups := by
  rw [close]
  split <;> simp

end Builder

/-- A property of drawings that every step of drawing a figure keeps. -/
structure Builder.StepInvariant (P : Builder → Prop) : Prop where
  mark : ∀ label type b, P b → P (b.drawMark label type)
  opened : ∀ label detail type b, P b → P (b.drawOpen label detail type)
  closed : ∀ b, P b → P b.close
  branch : ∀ seed b, P b → P (b.startBranch seed)
  moved : ∀ id b, P b → P (b.moveTo id)

section

variable {P : Builder → Prop}

mutual

theorem Figure.draw_keeps (hP : Builder.StepInvariant P) (f : Figure) {b : Builder} (h : P b) :
    P (f.draw b) := by
  cases f with
  | mark label type => exact hP.mark label type b h
  | fork label type operands =>
    exact drawOperands_keeps hP operands _ (hP.mark label type b h)
  | box label detail type branches =>
    exact hP.closed _ (drawBranches_keeps hP branches _ (hP.opened label detail type b h))

/-- What every step keeps holds after a flow has been drawn. -/
theorem drawFlow_keeps (hP : Builder.StepInvariant P) (fs : List Figure) {b : Builder} (h : P b) :
    P (drawFlow fs b) := by
  cases fs with
  | nil => exact h
  | cons f fs => exact drawFlow_keeps hP fs (Figure.draw_keeps hP f h)

theorem drawOperands_keeps (hP : Builder.StepInvariant P) (flows : List (List Figure)) (id : Id)
    {b : Builder} (h : P b) : P (drawOperands id flows b) := by
  cases flows with
  | nil => exact h
  | cons flow flows =>
    exact drawOperands_keeps hP flows id
      (hP.moved id _ (drawFlow_keeps hP flow (hP.branch id b h)))

theorem drawBranches_keeps (hP : Builder.StepInvariant P) (flows : List (List Figure)) (id : Id)
    {b : Builder} (h : P b) : P (drawBranches id flows b) := by
  cases flows with
  | nil => exact h
  | cons flow flows =>
    exact drawBranches_keeps hP flows id (drawFlow_keeps hP flow (hP.branch id b h))

end

end

theorem Builder.stepInvariant_expandGroups (expand : Bool) :
    StepInvariant fun b => b.expandGroups = expand where
  mark label type b h := by simpa using h
  opened label detail type b h := by simpa using h
  closed b h := by simpa using h
  branch seed b h := h
  moved id b h := by simpa using h

@[simp] theorem drawFlow_expandGroups (fs : List Figure) (b : Builder) :
    (drawFlow fs b).expandGroups = b.expandGroups :=
  drawFlow_keeps (Builder.stepInvariant_expandGroups b.expandGroups) fs rfl

theorem drawOperands_expandGroups (flows : List (List Figure)) (id : Id) (b : Builder) :
    (drawOperands id flows b).expandGroups = b.expandGroups :=
  drawOperands_keeps (Builder.stepInvariant_expandGroups b.expandGroups) flows id rfl

/-! ### Visiting a query draws its flow -/

theorem Query.figures_operation (expand : Bool) {op : Operator} (h : op ≠ .pipe)
    (l r : Option Query) :
    (operation op l r).figures expand =
      [.fork op.label (operation op l r).outputType? (branchOf expand l ++ branchOf expand r)] := by
  cases op <;> first | rfl | exact absurd rfl h

namespace Builder

theorem visit_operation {op : Operator} (h : op ≠ .pipe) (l r : Option Query) (b : Builder) :
    visit (.operation op l r) b =
      visitOperand (nodeId b.counter) r (visitOperand (nodeId b.counter) l
        (b.drawMark op.label (Query.operation op l r).outputType?)) := by
  cases op <;> first | rfl | exact absurd rfl h

theorem visitArgs_cons (id : Id) (q : Query) (args : List Query) (b : Builder) :
    visitArgs id (q :: args) b = visitArgs id args (visit q.unwrapped (b.startBranch id)) := by
  cases q <;> rfl

theorem visitEntries_cons (id : Id) (e : Entry Query) (entries : List (Entry Query))
    (b : Builder) :
    visitEntries id (e :: entries) b =
      let inside := (b.startBranch id).drawOpen (objectKeyTitle e.key) none none
      visitEntries id entries
        (visit e.value.unwrapped (inside.startBranch (nodeId b.counter))).close := by
  obtain ⟨key, value, keyExpr⟩ := e
  cases value <;> rfl

mutual

/-- Visiting a query draws its flow. -/
theorem visit_eq_drawFlow (q : Query) (b : Builder) :
    visit q b = drawFlow (q.figures b.expandGroups) b := by
  cases q with
  | operation op l r =>
    by_cases hop : op = .pipe
    · subst hop
      rw [visit, Query.figures, drawFlow_append, visitOption_eq_drawFlow l,
        visitOption_eq_drawFlow r, drawFlow_expandGroups]
    · rw [visit_operation hop, Query.figures_operation _ hop, drawFlow, drawFlow, Figure.draw,
        drawOperands_append, visitOperand_eq_drawOperands l, visitOperand_eq_drawOperands r,
        drawOperands_expandGroups, drawMark_expandGroups]
  | unary op operand =>
    rw [visit, addNode_eq, Query.figures, drawFlow, drawFlow, Figure.draw, drawOperands,
      drawOperands]
    simp only [Option.bind_some]
    rw [visit_eq_drawFlow operand, startBranch_expandGroups, drawMark_expandGroups]
  | call name args =>
    rw [visit, openContainer_eq, Query.figures, drawFlow, drawFlow, Figure.draw]
    simp only [Option.bind_some]
    rw [visitArgs_eq_drawBranches args, drawOpen_expandGroups]
  | array body =>
    rw [visit, openContainer_eq, Query.figures, drawFlow, drawFlow, Figure.draw]
    simp only [Option.bind_some]
    rw [visitBody_eq_drawBranches body, drawOpen_expandGroups]
  | object entries =>
    rw [visit, openContainer_eq, Query.figures, drawFlow, drawFlow, Figure.draw]
    simp only [Option.bind_some]
    rw [visitEntries_eq_drawBranches entries, drawOpen_expandGroups]
  | bind source name body =>
    rw [visit, addNode_eq, Query.figures, drawFlow_append, drawFlow, Figure.draw]
    simp only [Option.bind_some]
    rw [visit_eq_drawFlow source, visit_eq_drawFlow body, drawMark_expandGroups,
      drawFlow_expandGroups]
  | group body =>
    rw [visit, Query.figures]
    cases hexpand : b.expandGroups with
    | false => rfl
    | true =>
      simp only [if_true, openContainer_eq]
      rw [visit_eq_drawFlow body, startBranch_expandGroups, drawOpen_expandGroups, hexpand]
      rfl
  | _ => rfl

theorem visitOption_eq_drawFlow (q : Option Query) (b : Builder) :
    visitOption q b = drawFlow (Query.sideFigures b.expandGroups q) b := by
  cases q with
  | none => rfl
  | some q => exact visit_eq_drawFlow q b

theorem visitOperand_eq_drawOperands (q : Option Query) (id : Id) (b : Builder) :
    visitOperand id q b = drawOperands id (Query.branchOf b.expandGroups q) b := by
  cases q with
  | none => rfl
  | some q =>
    rw [visitOperand, Query.branchOf, drawOperands, drawOperands, visit_eq_drawFlow q,
      startBranch_expandGroups]

theorem visitBody_eq_drawBranches (q : Option Query) (id : Id) (b : Builder) :
    visitBody id q b = drawBranches id (Query.branchOf b.expandGroups q) b := by
  cases q with
  | none => rfl
  | some q =>
    rw [visitBody, Query.branchOf, drawBranches, drawBranches, visit_eq_drawFlow q,
      startBranch_expandGroups]

theorem visitArgs_eq_drawBranches (args : List Query) (id : Id) (b : Builder) :
    visitArgs id args b = drawBranches id (Query.argFigures b.expandGroups args) b := by
  cases args with
  | nil => rfl
  | cons q args =>
    have hq : visit q.unwrapped (b.startBranch id) =
        drawFlow (q.unwrapped.figures b.expandGroups) (b.startBranch id) := by
      cases q with
      | group q => exact visit_eq_drawFlow q (b.startBranch id)
      | _ => exact visit_eq_drawFlow _ (b.startBranch id)
    rw [visitArgs_cons, hq, Query.argFigures_cons, drawBranches,
      visitArgs_eq_drawBranches args, drawFlow_expandGroups, startBranch_expandGroups]

theorem visitEntries_eq_drawBranches (entries : List (Entry Query)) (id : Id) (b : Builder) :
    visitEntries id entries b = drawBranches id (Query.entryFigures b.expandGroups entries) b := by
  match entries with
  | [] => rfl
  | ⟨key, value, keyExpr⟩ :: entries =>
    have hvalue (b : Builder) :
        visit value.unwrapped b = drawFlow (value.unwrapped.figures b.expandGroups) b := by
      cases value with
      | group q => exact visit_eq_drawFlow q b
      | _ => exact visit_eq_drawFlow _ b
    simp only [visitEntries_cons, hvalue, Query.entryFigures_cons, drawBranches, drawFlow,
      Figure.draw, startBranch_expandGroups, drawOpen_expandGroups]
    rw [visitEntries_eq_drawBranches entries]
    simp [startBranch]

end

end Builder
end JqFlow
