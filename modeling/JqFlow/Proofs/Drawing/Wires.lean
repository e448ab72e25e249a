import JqFlow.Proofs.Drawing.Edges

/-!
# The edges of a drawing without gaps

If no operand and no branch is empty, a drawing is connected throughout: each figure is entered from
the one before it by an edge with the type of that figure, and from the last figure of each operand
an edge leads back.

## Main definitions

- `Figure.Solid`: no flow inside a figure is empty
- `Figure.wires`, `flowWires`, `operandWires`, `branchWires`: the edges of a drawing without gaps

## Main statements

- `flowEdges_eq_wires`: the edges of such a drawing are its wires
- `Query.figures_drawable`: a query whose pipes are complete draws something, without gaps
-/

namespace JqFlow

open Builder (nodeId)

mutual

/-- No operand and no branch of a figure is empty. -/
def Figure.Solid : Figure → Prop
  | .mark .. => True
  | .fork _ _ operands => SolidBranches operands
  | .box _ _ _ branches => SolidBranches branches

/-- No operand and no branch in a flow is empty. -/
def SolidFlow : List Figure → Prop
  | [] => True
  | f :: fs => f.Solid ∧ SolidFlow fs

/-- None of the flows is empty, nor is any flow inside them. -/
def SolidBranches : List (List Figure) → Prop
  | [] => True
  | flow :: flows => flow ≠ [] ∧ SolidFlow flow ∧ SolidBranches flows

end

/-- The label of an edge that leaves a figure along its flow. -/
def Figure.typeName (f : Figure) : Option Text :=
  f.type.map ValueType.name

/-- The number of the last figure of a flow that is numbered from `n`. -/
def lastNumber (n : Nat) : List Figure → Nat
  | [] => n
  | [_] => n
  | f :: fs => lastNumber (n + f.size) fs

/-- The type of the values that leave a flow. -/
def lastType : List Figure → Option ValueType
  | [] => none
  | [f] => f.type
  | _ :: fs => lastType fs

mutual

/-- The edges of a figure that is numbered from `n` and entered from `source` by an edge with the
given label. -/
def Figure.wires (source : Id) (label : Option Text) (n : Nat) : Figure → List Edge
  | .mark .. => [⟨source, nodeId n, label⟩]
  | .fork _ _ operands =>
    ⟨source, nodeId n, label⟩ :: operandWires (nodeId n) (n + 1) operands
  | .box _ _ _ branches => ⟨source, nodeId n, label⟩ :: branchWires (nodeId n) (n + 1) branches

/-- The edges of a flow, each figure entered from the one before it. -/
def flowWires (source : Id) (label : Option Text) (n : Nat) : List Figure → List Edge
  | [] => []
  | f :: fs => f.wires source label n ++ flowWires (nodeId n) f.typeName (n + f.size) fs

/-- The edges of operands, out of their operator and back to it. -/
def operandWires (id : Id) (n : Nat) : List (List Figure) → List Edge
  | [] => []
  | flow :: flows =>
    flowWires id none n flow ++
      ⟨nodeId (lastNumber n flow), id, (lastType flow).map ValueType.name⟩ ::
        operandWires id (n + flowSize flow) flows

/-- The edges of branches, out of their container. -/
def branchWires (id : Id) (n : Nat) : List (List Figure) → List Edge
  | [] => []
  | flow :: flows => flowWires id none n flow ++ branchWires id (n + flowSize flow) flows

end

theorem lastNumber_lt (fs : List Figure) (n : Nat) (h : fs ≠ []) :
    n ≤ lastNumber n fs ∧ lastNumber n fs < n + flowSize fs := by
  induction fs generalizing n with
  | nil => exact absurd rfl h
  | cons f fs ih =>
    cases fs with
    | nil =>
      have := f.size_pos
      simp only [lastNumber, flowSize]
      omega
    | cons g gs =>
      have := ih (n + f.size) (by simp)
      simp only [lastNumber, flowSize] at this ⊢
      omega

/-- A flow ends on its last figure. -/
theorem flowEnd_eq (fs : List Figure) (source : Id) (n : Nat) (h : fs ≠ []) :
    flowEnd source n fs = nodeId (lastNumber n fs) := by
  induction fs generalizing source n with
  | nil => exact absurd rfl h
  | cons f fs ih =>
    cases fs with
    | nil => rfl
    | cons g gs => exact ih (nodeId n) (n + f.size) (by simp)

/-! ### The edges of a solid drawing are its wires -/

mutual

theorem Figure.Solid.dangles {f : Figure} (h : f.Solid) : f.dangles = false := by
  cases f with
  | mark => rfl
  | fork => rfl
  | box _ _ _ branches => exact branchesDangle_eq_false branches h

theorem flowDangles_eq_false (fs : List Figure) (h : SolidFlow fs) {branching : Bool}
    (hne : fs ≠ [] ∨ branching = false) : flowDangles branching fs = false := by
  cases fs with
  | nil => exact hne.resolve_left fun hnil => hnil rfl
  | cons f fs => exact flowDangles_eq_false fs h.2 (.inr h.1.dangles)

theorem branchesDangle_eq_false (flows : List (List Figure)) (h : SolidBranches flows) :
    branchesDangle false flows = false := by
  cases flows with
  | nil => rfl
  | cons flow flows =>
    rw [branchesDangle, flowDangles_eq_false flow h.2.1 (.inl h.1)]
    exact branchesDangle_eq_false flows h.2.2

end

theorem Figure.Solid.leaving {f : Figure} (h : f.Solid) : f.leaving = f.typeName := by
  rw [Figure.leaving, h.dangles]
  rfl

theorem flowLeaving_eq {fs : List Figure} (h : SolidFlow fs) (hne : fs ≠ []) (label : Option Text) :
    flowLeaving label fs = (lastType fs).map ValueType.name := by
  induction fs generalizing label with
  | nil => exact absurd rfl hne
  | cons f fs ih =>
    cases fs with
    | nil => exact h.1.leaving
    | cons g gs => exact ih h.2 (by simp) f.leaving

theorem exitEdges_eq {fs : List Figure} (h : SolidFlow fs) (hne : fs ≠ []) (source target : Id)
    (n : Nat) :
    exitEdges source n target fs =
      [⟨nodeId (lastNumber n fs), target, (lastType fs).map ValueType.name⟩] := by
  cases fs with
  | nil => exact absurd rfl hne
  | cons f fs => rw [exitEdges, flowEnd_eq _ _ _ hne, flowLeaving_eq h hne]

mutual

theorem Figure.edges_eq_wires (f : Figure) (h : f.Solid) (source : Id) (label : Option Text)
    (n : Nat) : f.edges source label n = f.wires source label n := by
  cases f with
  | mark => rfl
  | fork _ _ operands => rw [Figure.edges, Figure.wires, operandEdges_eq_wires operands h]
  | box _ _ _ branches => rw [Figure.edges, Figure.wires, branchEdges_eq_wires branches h]

/-- The edges of a solid flow are its wires. -/
theorem flowEdges_eq_wires (fs : List Figure) (h : SolidFlow fs) (source : Id)
    (label : Option Text) (n : Nat) : flowEdges source label n fs = flowWires source label n fs := by
  cases fs with
  | nil => rfl
  | cons f fs =>
    rw [flowEdges, flowWires, Figure.edges_eq_wires f h.1, flowEdges_eq_wires fs h.2, h.1.leaving]

theorem operandEdges_eq_wires (flows : List (List Figure)) (h : SolidBranches flows) (id : Id)
    (n : Nat) : operandEdges id n flows = operandWires id n flows := by
  cases flows with
  | nil => rfl
  | cons flow flows =>
    rw [operandEdges, operandWires, flowEdges_eq_wires flow h.2.1, exitEdges_eq h.2.1 h.1,
      operandEdges_eq_wires flows h.2.2, List.append_assoc, List.singleton_append]

theorem branchEdges_eq_wires (flows : List (List Figure)) (h : SolidBranches flows) (id : Id)
    (n : Nat) : branchEdges id n flows = branchWires id n flows := by
  cases flows with
  | nil => rfl
  | cons flow flows =>
    rw [branchEdges, branchWires, flowEdges_eq_wires flow h.2.1, branchEdges_eq_wires flows h.2.2]

end

/-! ### Queries whose pipes are complete -/

namespace Query

mutual

/-- Has every pipe both sides? What is not drawn is not looked at. -/
def pipesComplete : Query → Bool
  | operation op l r =>
    (op != .pipe || l.isSome && r.isSome) && pipesCompleteOption l && pipesCompleteOption r
  | unary _ operand => pipesComplete operand
  | call _ args => pipesCompleteList args
  | array body => pipesCompleteOption body
  | object entries => pipesCompleteEntries entries
  | bind source _ body => pipesComplete source && pipesComplete body
  | group body => pipesComplete body
  | _ => true

/-- The same for a part that may be absent. -/
def pipesCompleteOption : Option Query → Bool
  | none => true
  | some q => pipesComplete q

/-- The same for arguments. -/
def pipesCompleteList : List Query → Bool
  | [] => true
  | q :: qs => pipesComplete q && pipesCompleteList qs

/-- The same for the values of entries. -/
def pipesCompleteEntries : List (Entry Query) → Bool
  | [] => true
  | ⟨_, value, _⟩ :: entries => pipesComplete value && pipesCompleteEntries entries

end

end Query

/-- A flow that draws something and has no empty flow inside. -/
def Drawable (fs : List Figure) : Prop :=
  fs ≠ [] ∧ SolidFlow fs

theorem solidFlow_append {fs gs : List Figure} (hfs : SolidFlow fs) (hgs : SolidFlow gs) :
    SolidFlow (fs ++ gs) := by
  induction fs with
  | nil => exact hgs
  | cons f fs ih => exact ⟨hfs.1, ih hfs.2⟩

theorem Drawable.append {fs gs : List Figure} (hfs : Drawable fs) (hgs : SolidFlow gs) :
    Drawable (fs ++ gs) :=
  ⟨by simp [hfs.1], solidFlow_append hfs.2 hgs⟩

theorem Drawable.single {f : Figure} (hf : f.Solid) : Drawable [f] :=
  ⟨by simp, hf, trivial⟩

theorem solidBranches_append {flows flows' : List (List Figure)} (h : SolidBranches flows)
    (h' : SolidBranches flows') : SolidBranches (flows ++ flows') := by
  induction flows with
  | nil => exact h'
  | cons flow flows ih => exact ⟨h.1, h.2.1, ih h.2.2⟩

namespace Query

mutual

theorem figures_drawable (expand : Bool) (q : Query) (h : q.pipesComplete) :
    Drawable (q.figures expand) := by
  cases q with
  | operation op l r =>
    simp only [pipesComplete, Bool.and_eq_true] at h
    obtain ⟨⟨hsides, hl⟩, hr⟩ := h
    by_cases hop : op = .pipe
    · subst hop
      match l, r, hsides with
      | some l, some r, _ =>
        exact (figures_drawable expand l hl).append (figures_drawable expand r hr).2
    · rw [figures_operation expand hop]
      exact .single (solidBranches_append (branchOf_solid expand l hl) (branchOf_solid expand r hr))
  | unary op operand =>
    obtain ⟨hne, hsolid⟩ := figures_drawable expand operand h
    exact .single ⟨hne, hsolid, trivial⟩
  | call name args => exact .single (argFigures_solid expand args h)
  | array body => exact .single (branchOf_solid expand body h)
  | object entries => exact .single (entryFigures_solid expand entries h)
  | bind source name body =>
    simp only [pipesComplete, Bool.and_eq_true] at h
    exact (figures_drawable expand source h.1).append
      ⟨trivial, (figures_drawable expand body h.2).2⟩
  | group body =>
    rw [figures]
    split
    · obtain ⟨hne, hsolid⟩ := figures_drawable expand body h
      exact .single ⟨hne, hsolid, trivial⟩
    · exact .single trivial
  | _ => exact .single trivial

theorem branchOf_solid (expand : Bool) (q : Option Query) (h : pipesCompleteOption q) :
    SolidBranches (branchOf expand q) := by
  cases q with
  | none => exact trivial
  | some q =>
    obtain ⟨hne, hsolid⟩ := figures_drawable expand q h
    exact ⟨hne, hsolid, trivial⟩

theorem argFigures_solid (expand : Bool) (args : List Query) (h : pipesCompleteList args) :
    SolidBranches (argFigures expand args) := by
  cases args with
  | nil => exact trivial
  | cons q args =>
    simp only [pipesCompleteList, Bool.and_eq_true] at h
    have hq : Drawable (q.unwrapped.figures expand) := by
      cases q with
      | group q => exact figures_drawable expand q h.1
      | _ => exact figures_drawable expand _ h.1
    rw [argFigures_cons]
    exact ⟨hq.1, hq.2, argFigures_solid expand args h.2⟩

theorem entryFigures_solid (expand : Bool) (entries : List (Entry Query))
    (h : pipesCompleteEntries entries) : SolidBranches (entryFigures expand entries) := by
  match entries with
  | [] => exact trivial
  | ⟨key, value, keyExpr⟩ :: entries =>
    simp only [pipesCompleteEntries, Bool.and_eq_true] at h
    have hvalue : Drawable (value.unwrapped.figures expand) := by
      cases value with
      | group q => exact figures_drawable expand q h.1
      | _ => exact figures_drawable expand _ h.1
    rw [entryFigures_cons]
    exact ⟨by simp, ⟨⟨hvalue.1, hvalue.2, trivial⟩, trivial⟩, entryFigures_solid expand entries h.2⟩

end

end Query
end JqFlow
