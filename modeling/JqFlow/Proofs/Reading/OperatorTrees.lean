import JqFlow.Proofs.Reading.PrintedClauses

/-!
# Operator trees

Queries put together from short terms with operators only. The text of such a query is read as the
query, unless some operator that groups to no side has an operation of its own kind on its left: the
printer leaves the parentheses out there, and the grammar has no such phrase.

## Main definitions

- `Query.IsOperatorTree`: a query of short terms and operators
- `Query.repeatsLone`: does an operator that groups to no side follow one of its kind?

## Main statements

- `parse_format_operatorTree`: what the reader makes of the text of an operator tree
-/

namespace JqFlow

namespace Query

/-- May this be a node of an operator tree: an operation with both sides, or a short term? -/
def IsOperatorNode : Query → Prop
  | operation op (some _) (some _) => op ∈ Operator.all ∧ op ≠ .noop
  | identity | recurse | null | bool _ | string _ => True
  | number text => Spelling.number? text = some text
  | var name | index (some name) none none => name.isPlainName = true
  | _ => False

/-- A tree whose branchings are operations and whose leaves are short terms. -/
def IsOperatorTree (q : Query) : Prop :=
  q.Throughout IsOperatorNode

/-- Is this a comparison with a comparison on its left, or an assignment with an assignment on its
left? -/
def repeatsLone : Query → Bool
  | operation op (some (operation op' _ _)) _ =>
    (op.isComparison && op'.isComparison) || (op.isAssignment && op'.isAssignment)
  | _ => false

theorem throughout_binary {P : Query → Prop} {op : Operator} {l r : Query} :
    (Query.binary op l r).Throughout P ↔
      P (Query.binary op l r) ∧ l.Throughout P ∧ r.Throughout P := by
  rw [throughout_iff]
  simp [Query.binary, parts]

theorem throughout_number {P : Query → Prop} {text : Text} :
    (Query.number text).Throughout P ↔ P (.number text) := by
  rw [throughout_iff]
  simp [parts]

/-! ### Operator trees are regular -/

section Regular

variable {q : Query}

theorem precedence_ne_zero {op : Operator} (h : op ∈ Operator.all) (hne : op ≠ .noop) :
    op.precedence ≠ 0 := by
  cases op with
  | noop => exact absurd rfl hne
  | other name => exact absurd h (by simp [Operator.all])
  | _ => exact Nat.succ_ne_zero _

/-- No operator tree begins with the name of a function. -/
theorem IsOperatorTree.leads (h : q.IsOperatorTree) : q.leads = false := by
  induction h with
  | @intro q here below ih =>
    cases q with
    | operation op l r =>
      cases l with
      | none => exact absurd here id
      | some l => simp [Query.leads, ih l (by simp [parts])]
    | call name args => exact absurd here id
    | _ => rfl

theorem IsOperatorTree.isSide (h : q.IsOperatorTree) (op : Operator) (isLeft : Bool) :
    IsSide op isLeft q := by
  have hleads := IsOperatorTree.leads h
  refine ⟨?_, by simp [hleads], by simp [hleads]⟩
  intro hbinder
  have hnode := (throughout_iff.mp h).1
  cases q with
  | label name body => exact absurd hnode id
  | bind source name body => exact absurd hnode id
  | _ => exact absurd hbinder Bool.false_ne_true

theorem IsOperatorTree.regular (h : q.IsOperatorTree) : q.Throughout IsRegular := by
  induction h with
  | @intro q here below ih =>
    refine .intro ?_ ih
    cases q with
    | operation op l r =>
      cases l with
      | none => exact absurd here id
      | some l =>
        cases r with
        | none => exact absurd here id
        | some r =>
          have hl : l.IsOperatorTree := below l (by simp [parts])
          have hr : r.IsOperatorTree := below r (by simp [parts])
          exact ⟨precedence_ne_zero here.1 here.2, hl.isSide op true, hr.isSide op false⟩
    | index name key e =>
      cases name with
      | none => exact absurd here id
      | some name =>
        cases key with
        | some key => exact absurd here id
        | none =>
          cases e with
          | some e => exact absurd here id
          | none => exact Spelling.name?_of_isPlainName here
    | _ => first
        | exact here
        | exact absurd here id

/-- There are no parentheses in an operator tree. -/
theorem IsOperatorTree.ungroup (h : q.IsOperatorTree) : q.ungroup = q := by
  induction h with
  | @intro q here below ih =>
    cases q with
    | operation op l r =>
      cases l with
      | none => exact absurd here id
      | some l =>
        cases r with
        | none => exact absurd here id
        | some r => simp [Query.ungroup, ih l (by simp [parts]), ih r (by simp [parts])]
    | index name key e =>
      cases e with
      | none => rfl
      | some e => cases name <;> cases key <;> exact absurd here id
    | _ => first
        | rfl
        | exact absurd here id

end Regular

/-! ### What can go wrong -/

section Legible

variable {q : Query}

theorem keepsAttempt_of_isOperatorNode (h : q.IsOperatorNode) : q.keepsAttempt = true := by
  cases q with
  | attempt body handler => exact absurd h id
  | _ => rfl

theorem IsOperatorTree.steady (h : q.IsOperatorTree) : q.Steady :=
  Throughout.mono (fun _ => keepsAttempt_of_isOperatorNode) h

/-- Two operators of one level are of one kind. -/
theorem isLone_and_precedence (op op' : Operator) :
    (op.isLone && op'.precedence = op.precedence) =
      ((op.isComparison && op'.isComparison) || (op.isAssignment && op'.isAssignment)) := by
  rw [Bool.eq_iff_iff]
  simp only [Bool.and_eq_true, Bool.or_eq_true, decide_eq_true_eq, Operator.isLone_iff,
    Operator.isComparison_iff, Operator.isAssignment_iff]
  omega

theorem isGrouped_eq (op : Operator) (l r : Option Query) :
    (operation op l r).isGrouped = !(operation op l r).repeatsLone := by
  cases l with
  | none => rfl
  | some l =>
    cases l with
    | operation op' l' r' =>
      show (!(op.isLone && decide (op'.precedence = op.precedence))) = _
      rw [isLone_and_precedence]
      rfl
    | _ => rfl

theorem callsLabel_eq_false (h : q.IsOperatorTree) : q.callsLabel = false := by
  have hnode := (throughout_iff.mp h).1
  cases q with
  | call name args => exact absurd hnode id
  | _ => rfl

/-- All that can go wrong with the text of an operator tree is how it is grouped. -/
theorem IsOperatorTree.isLegible (h : q.IsOperatorTree) : q.isLegible = !q.repeatsLone := by
  obtain ⟨hnode, hparts⟩ := throughout_iff.mp h
  cases q with
  | operation op l r =>
    have hlabel (p : Query) (hp : p ∈ (operation op l r).parts) : p.callsLabel = false :=
      callsLabel_eq_false (hparts p hp)
    have hpipes : (operation op l r).pipesNoLabel = true := by
      cases l <;> cases r <;> cases op <;> simp_all [pipesNoLabel, parts]
    rw [Query.isLegible, hpipes, isGrouped_eq]
    rfl
  | index name key e =>
    cases name with
    | none => exact absurd hnode id
    | some name =>
      cases key with
      | some key => exact absurd hnode id
      | none =>
        cases e with
        | some e => exact absurd hnode id
        | none =>
          have hplain : name.isPlainName = true := hnode
          simp [Query.isLegible, hasPlainField, pipesNoLabel, isGrouped, repeatsLone, hplain]
  | _ => rfl

/-- The parts of an operator tree are operator trees. -/
theorem IsOperatorTree.throughout (h : q.IsOperatorTree) : q.Throughout IsOperatorTree := by
  induction h with
  | intro here below ih => exact .intro (.intro here below) ih

/-- The text of an operator tree can be read unless an operator that groups to no side has one of
its kind on its left. -/
theorem IsOperatorTree.legible_iff (h : q.IsOperatorTree) :
    q.Legible ↔ q.Throughout fun p => p.repeatsLone = false := by
  constructor
  · intro hlegible
    refine (throughout_and.mpr ⟨h.throughout, hlegible⟩).mono fun p hp => ?_
    simpa [hp.1.isLegible] using hp.2
  · intro hfree
    refine (throughout_and.mpr ⟨h.throughout, hfree⟩).mono fun p hp => ?_
    simp [hp.1.isLegible, hp.2]

end Legible

end Query

open Query

/-- The text of an operator tree is read as the tree, up to parentheses, if nowhere a comparison has
a comparison on its left, or an assignment an assignment. Otherwise it is refused. -/
theorem parse_format_operatorTree {q : Query} (h : q.IsOperatorTree) :
    ∃ text, q.format? = .ok text ∧
      ((q.Throughout fun p => p.repeatsLone = false) →
        ∃ r, parse text = .ok r ∧ r.ungroup = q) ∧
      ((¬q.Throughout fun p => p.repeatsLone = false) → ∃ e, parse text = .error e) := by
  obtain ⟨hsome, hsame⟩ := parse_print (q := q) h.regular h.leads
  refine ⟨q.print, format?_of_regular h.regular, ?_, ?_⟩
  · intro hfree
    have hread := hsome.mpr (h.legible_iff.mpr hfree)
    cases hparse : parse q.print with
    | error e => simp [hparse, Except.toOption] at hread
    | ok r =>
      refine ⟨r, rfl, ?_⟩
      rw [(hsame r (by rw [hparse]; rfl)).mpr h.steady, h.ungroup]
  · intro hrepeats
    cases hparse : parse q.print with
    | error e => exact ⟨e, rfl⟩
    | ok r =>
      have hread : q.Legible := hsome.mp (by rw [hparse]; rfl)
      exact absurd (h.legible_iff.mp hread) hrepeats

/-- What is grouped to the right with a minus is read again, and a chain of comparisons is not. -/
theorem parse_format_operatorTree_chains :
    (∃ r, parse "1 - (2 - 3)" = .ok r ∧
      r.ungroup = binary .sub (number "1") (binary .sub (number "2") (number "3"))) ∧
    ∃ e, parse "1 == 2 == 3" = .error e := by
  have hone : (number "1").IsOperatorTree :=
    throughout_number.mpr (show Spelling.number? "1" = some "1" by decide)
  have htwo : (number "2").IsOperatorTree :=
    throughout_number.mpr (show Spelling.number? "2" = some "2" by decide)
  have hthree : (number "3").IsOperatorTree :=
    throughout_number.mpr (show Spelling.number? "3" = some "3" by decide)
  have hnode {op : Operator} {l r : Query} (hop : op ∈ Operator.all) (hne : op ≠ .noop) :
      (binary op l r).IsOperatorNode := ⟨hop, hne⟩
  refine ⟨?_, ?_⟩
  · have hright : (binary .sub (number "2") (number "3")).IsOperatorTree :=
      throughout_binary.mpr ⟨hnode (by decide) (by decide), htwo, hthree⟩
    have htree : (binary .sub (number "1") (binary .sub (number "2") (number "3"))).IsOperatorTree :=
      throughout_binary.mpr ⟨hnode (by decide) (by decide), hone, hright⟩
    obtain ⟨text, hformat, hread, -⟩ := parse_format_operatorTree htree
    obtain rfl : "1 - (2 - 3)" = text := Except.ok.inj hformat
    refine hread (throughout_binary.mpr ⟨rfl, throughout_number.mpr rfl, ?_⟩)
    exact throughout_binary.mpr ⟨rfl, throughout_number.mpr rfl, throughout_number.mpr rfl⟩
  · have hleft : (binary .eq (number "1") (number "2")).IsOperatorTree :=
      throughout_binary.mpr ⟨hnode (by decide) (by decide), hone, htwo⟩
    have htree : (binary .eq (binary .eq (number "1") (number "2")) (number "3")).IsOperatorTree :=
      throughout_binary.mpr ⟨hnode (by decide) (by decide), hleft, hthree⟩
    obtain ⟨text, hformat, -, hrefused⟩ := parse_format_operatorTree htree
    obtain rfl : "1 == 2 == 3" = text := Except.ok.inj hformat
    refine hrefused fun hfree => ?_
    exact absurd (throughout_binary.mp hfree).1 (by decide)

end JqFlow
