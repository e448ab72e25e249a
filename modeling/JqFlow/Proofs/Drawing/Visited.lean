import JqFlow.Proofs.Drawing.Elements

/-!
# The ids that a visit gives

Drawing a query gives ids to the nodes and containers that it draws, in the order in which they are
begun: an operator before its operands, a container before what is inside it.

## Main definitions

- `Builder.visitIds`: the ids that are given while a query is drawn

## Main statements

- `Builder.visitIds_eq`: they are the next ids with the numbers that follow one another

## Design notes

`Builder.visitIds` follows `Builder.visit` step by step and notes what `Builder.addNode` and
`Builder.openContainer` return, so that what is said of these ids does not rest on the counter.
-/

namespace JqFlow

namespace Builder

mutual

/-- The ids that are given while a query is drawn, in the order in which they are given. -/
def visitIds : Query → Builder → List Id
  | .operation .pipe l r, b => visitOptionIds l b ++ visitOptionIds r (visitOption l b)
  | .operation op l r, b =>
    let (id, b) := b.addNode op.label none (some (.operation op l r))
    id :: (visitOptionIds l (b.startBranch id) ++
      visitOptionIds r ((visitOperand id l b).startBranch id))
  | .unary op operand, b =>
    let (id, b) := b.addNode (Query.unary op operand).title none (some (.unary op operand))
    id :: visitIds operand (b.startBranch id)
  | .call name args, b =>
    let q := Query.call name args
    let (id, b) := b.openContainer (functionTitle name) (some q.title) (some q)
    id :: visitArgsIds id args b
  | .array body, b =>
    let q := Query.array body
    let (id, b) := b.openContainer q.title none (some q)
    id :: visitOptionIds body (b.startBranch id)
  | .object entries, b =>
    let q := Query.object entries
    let (id, b) := b.openContainer q.title none (some q)
    id :: visitEntriesIds id entries b
  | .bind source name body, b =>
    let q := Query.bind source name body
    let (id, after) := (visit source b).addNode q.title none (some q)
    visitIds source b ++ id :: visitIds body after
  | .group body, b =>
    let q := Query.group body
    if b.expandGroups then
      let (id, b) := b.openContainer q.title none none
      id :: visitIds body (b.startBranch id)
    else [(b.addNode q.title none (some q)).1]
  | q, b => [(b.addNode q.title none (some q)).1]

/-- The ids that are given to a part of a query, if it is there. -/
def visitOptionIds : Option Query → Builder → List Id
  | none, _ => []
  | some q, b => visitIds q b

/-- The ids that are given to the arguments of a call. -/
def visitArgsIds (id : Id) : List Query → Builder → List Id
  | [], _ => []
  | .group q :: args, b =>
    visitIds q (b.startBranch id) ++ visitArgsIds id args (visit q (b.startBranch id))
  | q :: args, b =>
    visitIds q (b.startBranch id) ++ visitArgsIds id args (visit q (b.startBranch id))

/-- The ids that are given to the entries of an object. -/
def visitEntriesIds (id : Id) : List (Entry Query) → Builder → List Id
  | [], _ => []
  | ⟨key, .group value, _⟩ :: entries, b =>
    let (keyId, b) := (b.startBranch id).openContainer (objectKeyTitle key) none none
    keyId :: (visitIds value (b.startBranch keyId) ++
      visitEntriesIds id entries (visit value (b.startBranch keyId)).close)
  | ⟨key, value, _⟩ :: entries, b =>
    let (keyId, b) := (b.startBranch id).openContainer (objectKeyTitle key) none none
    keyId :: (visitIds value (b.startBranch keyId) ++
      visitEntriesIds id entries (visit value (b.startBranch keyId)).close)

end

theorem visitIds_operation {op : Operator} (h : op ≠ .pipe) (l r : Option Query) (b : Builder) :
    visitIds (.operation op l r) b =
      let after := b.drawMark op.label (Query.operation op l r).outputType?
      nodeId b.counter :: (visitOptionIds l (after.startBranch (nodeId b.counter)) ++
        visitOptionIds r
          ((visitOperand (nodeId b.counter) l after).startBranch (nodeId b.counter))) := by
  cases op <;> first | rfl | exact absurd rfl h

theorem visitArgsIds_cons (id : Id) (q : Query) (args : List Query) (b : Builder) :
    visitArgsIds id (q :: args) b =
      visitIds q.unwrapped (b.startBranch id) ++
        visitArgsIds id args (visit q.unwrapped (b.startBranch id)) := by
  cases q <;> rfl

theorem visitEntriesIds_cons (id : Id) (e : Entry Query) (entries : List (Entry Query))
    (b : Builder) :
    visitEntriesIds id (e :: entries) b =
      let inside := (b.startBranch id).drawOpen (objectKeyTitle e.key) none none
      nodeId b.counter :: (visitIds e.value.unwrapped (inside.startBranch (nodeId b.counter)) ++
        visitEntriesIds id entries
          (visit e.value.unwrapped (inside.startBranch (nodeId b.counter))).close) := by
  obtain ⟨key, value, keyExpr⟩ := e
  cases value <;> rfl

/-! ### What a visit leaves -/

theorem flowSize_append (fs gs : List Figure) :
    flowSize (fs ++ gs) = flowSize fs + flowSize gs := by
  induction fs with
  | nil => simp [flowSize]
  | cons f fs ih => rw [List.cons_append, flowSize, flowSize, ih, Nat.add_assoc]

theorem branchSize_append (flows flows' : List (List Figure)) :
    branchSize (flows ++ flows') = branchSize flows + branchSize flows' := by
  induction flows with
  | nil => simp [branchSize]
  | cons flow flows ih => rw [List.cons_append, branchSize, branchSize, ih, Nat.add_assoc]

@[simp] theorem visit_expandGroups (q : Query) (b : Builder) :
    (visit q b).expandGroups = b.expandGroups := by
  rw [visit_eq_drawFlow, drawFlow_expandGroups]

@[simp] theorem visitOperand_expandGroups (id : Id) (q : Option Query) (b : Builder) :
    (visitOperand id q b).expandGroups = b.expandGroups := by
  rw [visitOperand_eq_drawOperands, drawOperands_expandGroups]

theorem visit_counter (q : Query) (b : Builder) :
    (visit q b).counter = b.counter + flowSize (q.figures b.expandGroups) := by
  rw [visit_eq_drawFlow, (drawFlow_placed _ b).counter]

theorem visitOperand_counter (id : Id) (q : Option Query) (b : Builder) :
    (visitOperand id q b).counter =
      b.counter + branchSize (Query.branchOf b.expandGroups q) := by
  rw [visitOperand_eq_drawOperands, (drawOperands_placed _ id b).counter]

@[simp] theorem startBranch_counter (seed : Id) (b : Builder) :
    (b.startBranch seed).counter = b.counter := rfl

@[simp] theorem drawMark_counter (label : Text) (type : Option ValueType) (b : Builder) :
    (b.drawMark label type).counter = b.counter + 1 :=
  (drawMark_placed label type b).counter

theorem nodeIds_one (n : Nat) : nodeIds n 1 = [nodeId n] := rfl

theorem branchSize_branchOf (expand : Bool) (q : Option Query) :
    branchSize (Query.branchOf expand q) = flowSize (Query.sideFigures expand q) := by
  cases q <;> simp [Query.branchOf, Query.sideFigures, branchSize, flowSize]

/-! ### Which ids are given -/

mutual

/-- A visit gives the ids with the next numbers. -/
theorem visitIds_eq (q : Query) (b : Builder) :
    visitIds q b = nodeIds b.counter (flowSize (q.figures b.expandGroups)) := by
  cases q with
  | operation op l r =>
    by_cases hop : op = .pipe
    · subst hop
      rw [visitIds, visitOptionIds_eq l, visitOptionIds_eq r, visitOption_eq_drawFlow,
        drawFlow_expandGroups, (drawFlow_placed _ b).counter, Query.figures, flowSize_append,
        nodeIds_add, branchSize_branchOf, branchSize_branchOf]
    · rw [visitIds_operation hop, Query.figures_operation _ hop]
      simp only [visitOptionIds_eq l, visitOptionIds_eq r, startBranch_counter,
        startBranch_expandGroups, visitOperand_counter, visitOperand_expandGroups,
        drawMark_counter, drawMark_expandGroups, flowSize, Figure.size, branchSize_append,
        Nat.add_zero, nodeIds_add, nodeIds_one, List.cons_append, List.nil_append]
  | unary op operand =>
    rw [visitIds, addNode_eq, Query.figures]
    simp only [visitIds_eq operand, startBranch_counter, startBranch_expandGroups,
      drawMark_counter, drawMark_expandGroups, flowSize, Figure.size, branchSize, Nat.add_zero,
      nodeIds_one_add]
  | call name args =>
    rw [visitIds, openContainer_eq, Query.figures]
    simp only [visitArgsIds_eq args, drawOpen_counter, drawOpen_expandGroups, flowSize,
      Figure.size, Nat.add_zero, nodeIds_one_add]
  | array body =>
    rw [visitIds, openContainer_eq, Query.figures]
    simp only [visitOptionIds_eq body, startBranch_counter, startBranch_expandGroups,
      drawOpen_counter, drawOpen_expandGroups, flowSize, Figure.size, Nat.add_zero,
      nodeIds_one_add]
  | object entries =>
    rw [visitIds, openContainer_eq, Query.figures]
    simp only [visitEntriesIds_eq entries, drawOpen_counter, drawOpen_expandGroups, flowSize,
      Figure.size, Nat.add_zero, nodeIds_one_add]
  | bind source name body =>
    rw [visitIds, addNode_eq, Query.figures]
    simp only [visitIds_eq source, visitIds_eq body, visit_counter, visit_expandGroups,
      drawMark_counter, drawMark_expandGroups, flowSize_append, flowSize, Figure.size,
      nodeIds_add, nodeIds_one, Option.bind_some, List.cons_append, List.nil_append]
  | group body =>
    rw [visitIds, Query.figures]
    cases hexpand : b.expandGroups with
    | false => rfl
    | true =>
      simp only [if_true, openContainer_eq, visitIds_eq body, startBranch_counter,
        startBranch_expandGroups, drawOpen_counter, drawOpen_expandGroups, hexpand, flowSize,
        Figure.size, branchSize, Nat.add_zero, nodeIds_one_add]
  | _ => rfl

theorem visitOptionIds_eq (q : Option Query) (b : Builder) :
    visitOptionIds q b = nodeIds b.counter (branchSize (Query.branchOf b.expandGroups q)) := by
  cases q with
  | none => rfl
  | some q =>
    rw [visitOptionIds, visitIds_eq q, Query.branchOf, branchSize, branchSize, Nat.add_zero]

theorem visitArgsIds_eq (args : List Query) (id : Id) (b : Builder) :
    visitArgsIds id args b =
      nodeIds b.counter (branchSize (Query.argFigures b.expandGroups args)) := by
  cases args with
  | nil => rfl
  | cons q args =>
    have hq : visitIds q.unwrapped (b.startBranch id) =
        nodeIds b.counter (flowSize (q.unwrapped.figures b.expandGroups)) := by
      cases q with
      | group q => exact visitIds_eq q (b.startBranch id)
      | _ => exact visitIds_eq _ (b.startBranch id)
    rw [visitArgsIds_cons, hq, visitArgsIds_eq args, visit_counter, visit_expandGroups,
      startBranch_counter, startBranch_expandGroups, Query.argFigures_cons, branchSize,
      nodeIds_add]

theorem visitEntriesIds_eq (entries : List (Entry Query)) (id : Id) (b : Builder) :
    visitEntriesIds id entries b =
      nodeIds b.counter (branchSize (Query.entryFigures b.expandGroups entries)) := by
  match entries with
  | [] => rfl
  | ⟨key, value, keyExpr⟩ :: entries =>
    have hvalue (b : Builder) : visitIds value.unwrapped b =
        nodeIds b.counter (flowSize (value.unwrapped.figures b.expandGroups)) := by
      cases value with
      | group q => exact visitIds_eq q b
      | _ => exact visitIds_eq _ b
    simp only [visitEntriesIds_cons, hvalue, visitEntriesIds_eq entries, close_counter,
      close_expandGroups, visit_counter, visit_expandGroups, startBranch_counter,
      startBranch_expandGroups, drawOpen_counter, drawOpen_expandGroups, Query.entryFigures_cons,
      branchSize, flowSize, Figure.size, Nat.add_zero, nodeIds_add, nodeIds_one, Nat.add_assoc,
      List.cons_append, List.nil_append]

end

end Builder
end JqFlow
