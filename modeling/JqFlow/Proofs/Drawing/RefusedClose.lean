import JqFlow.Proofs.Drawing.Operations
import JqFlow.Proofs.Drawing.Regrouping
import JqFlow.Proofs.Drawing.Steps

/-!
# Closing the top level

Closing a container takes the innermost scope away before it looks whose scope it is. So where only
the top level is open, the refusal to close it takes it away, with all that has been filed in it, and
from then on nothing can be filed outside of a container.

## Main definitions

- `Builder.raises`: does an operation raise an error?
- `Builder.within`: a drawing with more scopes around those that are open
- `Ledger.attempt`, `Ledger.attemptAll`: operations on a drawing that may have lost its scopes

## Main statements

- `drawFlow_within`: a flow is drawn in the innermost scope, whatever is around it
- `Ledger.perform_within`: what an operation that raises no error does, it also does with more scopes
  around those that are open
- `Ledger.attemptAll_within`: so do any number of operations
- `Ledger.close_refused`: what a refused close changes, and which operations fail after it

## Design notes

`Ledger.perform` is meant for drawings with an open scope, as all are that operations without errors
lead to: there it has no result exactly where an error is raised. `Builder.raises` also tells where
an error is raised without an open scope.
-/

namespace JqFlow
namespace Builder

/-- Does an operation put an element at the end of the scope that is open? A query without a part
that is no pipe draws nothing. -/
def Op.files : Op → Bool
  | .addNode .. | .closeContainer => true
  | .visitBranch _ q => !q.pipeOperands.isEmpty
  | _ => false

/-- Does an operation raise an error? Nothing can be filed where no scope is open. -/
def raises (b : Builder) : Op → Bool
  | .closeContainer => b.closeContainer.1.isSome
  | .visitBranch seed q =>
    (q.undrawable? b.expandGroups).isSome || b.scopes.isEmpty && (Op.visitBranch seed q).files
  | op => b.scopes.isEmpty && op.files

/-- A drawing with more scopes around those that are open. -/
def within (b : Builder) (outer : List Scope) : Builder :=
  { b with scopes := b.scopes ++ outer }

/-- A container can be closed if there is a scope around it. -/
theorem exists_scopes_of_close {b : Builder} (h : b.raises .closeContainer = false) :
    ∃ c inside s inner, b.scopes = ⟨some c, inside⟩ :: s :: inner := by
  cases hs : b.scopes with
  | nil => simp [raises, closeContainer, hs] at h
  | cons s inner =>
    obtain ⟨container, inside⟩ := s
    cases container with
    | none => simp [raises, closeContainer, hs] at h
    | some c =>
      cases inner with
      | nil => simp [raises, closeContainer, hs] at h
      | cons s inner => exact ⟨c, inside, s, inner, rfl⟩

section Steps

variable {b : Builder} (outer : List Scope)

theorem connect_within (source target : Id) (b : Builder) :
    (b.within outer).connect source target = (b.connect source target).within outer := by
  rw [within, connect_with_scopes, within, connect_scopes]

theorem moveTo_within (id : Id) (b : Builder) :
    (b.within outer).moveTo id = (b.moveTo id).within outer := by
  rw [moveTo, moveTo]
  show { (b.within outer).connect b.cursor id with cursor := id } = _
  rw [connect_within]
  rfl

theorem startBranch_within (seed : Id) (b : Builder) :
    (b.within outer).startBranch seed = (b.startBranch seed).within outer := rfl

theorem noteType_within (id : Id) (type : Option ValueType) (b : Builder) :
    (b.within outer).noteType id type = (b.noteType id type).within outer := by
  cases type <;> rfl

/-- An element is filed in the innermost scope. -/
theorem file_within (h : b.scopes ≠ []) (e : Element) :
    (b.within outer).file e = (b.file e).within outer := by
  obtain ⟨s, inner, hs⟩ := List.exists_cons_of_ne_nil h
  simp only [file, within, hs, List.cons_append]

/-- An element that is filed and entered. -/
theorem enter_within (h : b.scopes ≠ []) (id : Id) (type : Option ValueType) (e : Element) :
    ((({ b.within outer with counter := b.counter + 1 } : Builder).noteType id type).file e).moveTo
        id =
      (((({ b with counter := b.counter + 1 } : Builder).noteType id type).file e).moveTo
        id).within outer := by
  show (((({ b with counter := b.counter + 1 } : Builder).within outer).noteType id type).file
    e).moveTo id = _
  rw [noteType_within, file_within outer (by rwa [noteType_scopes]), moveTo_within]

theorem addNode_within (h : b.scopes ≠ []) (label : Text) (detail : Option Text)
    (source : Option Query) :
    (b.within outer).addNode label detail source =
      ((b.addNode label detail source).1, (b.addNode label detail source).2.within outer) :=
  Prod.ext rfl (enter_within outer h (nodeId b.counter) (source.bind Query.outputType?) _)

theorem drawMark_within (h : b.scopes ≠ []) (label : Text) (type : Option ValueType) :
    (b.within outer).drawMark label type = (b.drawMark label type).within outer :=
  enter_within outer h (nodeId b.counter) type _

theorem drawOpen_within (label : Text) (detail : Option Text) (type : Option ValueType)
    (b : Builder) :
    (b.within outer).drawOpen label detail type = (b.drawOpen label detail type).within outer := by
  have hentered : ((({ b with counter := b.counter + 1 } : Builder).within outer).noteType
      (nodeId b.counter) type).moveTo (nodeId b.counter) =
      ((({ b with counter := b.counter + 1 } : Builder).noteType (nodeId b.counter) type).moveTo
        (nodeId b.counter)).within outer := by
    rw [noteType_within, moveTo_within]
  exact congrArg (fun b' : Builder => { b' with
    scopes := ⟨some ⟨nodeId b.counter, label, detail⟩, []⟩ :: b'.scopes }) hentered

/-- A container is closed into the scope around it. -/
theorem close_within {c : Opened} {inside : List Element} {s : Scope} {inner : List Scope}
    (h : b.scopes = ⟨some c, inside⟩ :: s :: inner) :
    (b.within outer).close = b.close.within outer := by
  simp [close, within, h, file]

theorem closeContainer_within {c : Opened} {inside : List Element} {s : Scope}
    {inner : List Scope} (h : b.scopes = ⟨some c, inside⟩ :: s :: inner) :
    (b.within outer).closeContainer =
      (b.closeContainer.1, b.closeContainer.2.within outer) := by
  have hwithin : (b.within outer).scopes = ⟨some c, inside⟩ :: s :: (inner ++ outer) := by
    rw [within, h]
    rfl
  rw [closeContainer, hwithin, closeContainer, h]
  exact congrArg (Prod.mk none) (close_within outer h)

end Steps

theorem Placed.scopes_ne_nil {es : List Element} {k : Nat} {b after : Builder}
    (h : Placed es k b after) (hb : b.scopes ≠ []) : after.scopes ≠ [] := by
  obtain ⟨s, inner, hs⟩ := List.exists_cons_of_ne_nil hb
  rw [h.scopes _ _ _ hs]
  exact List.cons_ne_nil _ _

end Builder

open Builder (nodeId)

mutual

theorem Figure.draw_within (f : Figure) {b : Builder} (h : b.scopes ≠ []) (outer : List Scope) :
    f.draw (b.within outer) = (f.draw b).within outer := by
  cases f with
  | mark label type => exact Builder.drawMark_within outer h label type
  | fork label type operands =>
    have hmark := (Builder.drawMark_placed label type b).scopes_ne_nil h
    rw [Figure.draw, Builder.drawMark_within outer h]
    exact drawOperands_within operands _ hmark outer
  | box label detail type branches =>
    have hopen : (b.drawOpen label detail type).scopes ≠ [] := by
      rw [Builder.drawOpen_scopes]
      exact List.cons_ne_nil _ _
    have hinside := (drawBranches_placed branches (nodeId b.counter) _).scopes _ _ _
      (Builder.drawOpen_scopes label detail type b)
    obtain ⟨s, inner, hs⟩ := List.exists_cons_of_ne_nil h
    rw [hs] at hinside
    rw [Figure.draw, Builder.drawOpen_within, Figure.draw]
    refine Eq.trans (congrArg Builder.close (drawBranches_within branches _ hopen outer)) ?_
    exact Builder.close_within outer hinside

/-- A flow is drawn in the innermost scope, whatever is around it. -/
theorem drawFlow_within (fs : List Figure) {b : Builder} (h : b.scopes ≠ [])
    (outer : List Scope) : drawFlow fs (b.within outer) = (drawFlow fs b).within outer := by
  cases fs with
  | nil => rfl
  | cons f fs =>
    rw [drawFlow, Figure.draw_within f h outer]
    exact drawFlow_within fs ((Figure.draw_placed f b).scopes_ne_nil h) outer

theorem drawOperands_within (flows : List (List Figure)) (id : Id) {b : Builder}
    (h : b.scopes ≠ []) (outer : List Scope) :
    drawOperands id flows (b.within outer) = (drawOperands id flows b).within outer := by
  cases flows with
  | nil => rfl
  | cons flow flows =>
    have hflow := (drawFlow_placed flow (b.startBranch id)).scopes_ne_nil h
    rw [drawOperands, Builder.startBranch_within,
      drawFlow_within flow (b := b.startBranch id) h outer, Builder.moveTo_within]
    exact drawOperands_within flows id (by rwa [Builder.moveTo_scopes]) outer

theorem drawBranches_within (flows : List (List Figure)) (id : Id) {b : Builder}
    (h : b.scopes ≠ []) (outer : List Scope) :
    drawBranches id flows (b.within outer) = (drawBranches id flows b).within outer := by
  cases flows with
  | nil => rfl
  | cons flow flows =>
    have hflow := (drawFlow_placed flow (b.startBranch id)).scopes_ne_nil h
    rw [drawBranches, Builder.startBranch_within,
      drawFlow_within flow (b := b.startBranch id) h outer]
    exact drawBranches_within flows id hflow outer

end

namespace Builder

/-- A query without a part that is no pipe is drawn as nothing. -/
theorem visit_of_isEmpty {q : Query} (h : q.pipeOperands.isEmpty) (b : Builder) :
    visit q b = b := by
  rw [visit_eq_foldl_stages, ← Query.pipeOperands_eq_stages, List.isEmpty_iff.mp h,
    List.foldl_nil]

/-- A query that raises no error is drawn alike with more scopes around those that are open. -/
theorem visitBranch_within {b : Builder} {seed : Id} {q : Query}
    (h : b.raises (.visitBranch seed q) = false) (outer : List Scope) :
    (b.within outer).visitBranch seed q = (b.visitBranch seed q).within outer := by
  by_cases hscopes : b.scopes = []
  · have hnothing : q.pipeOperands.isEmpty := by
      simp only [raises, Op.files, hscopes, List.isEmpty_nil, Bool.true_and, Bool.or_eq_false_iff,
        Bool.not_eq_false'] at h
      exact h.2
    rw [visitBranch, visitBranch, visit_of_isEmpty hnothing, visit_of_isEmpty hnothing,
      startBranch_within]
  · rw [visitBranch, visitBranch, visit_eq_drawFlow, visit_eq_drawFlow, startBranch_within]
    exact drawFlow_within _ (b := b.startBranch seed) hscopes outer

/-! ### What a refused close leaves -/

theorem Bottomed.ne_nil {scopes : List Scope} (h : Bottomed scopes) : scopes ≠ [] := by
  obtain ⟨container, placed, outer, rfl⟩ := h.exists_cons
  exact List.cons_ne_nil _ _

/-- Only the top level is open, or a container with a scope around it. -/
theorem Bottomed.cases {scopes : List Scope} (h : Bottomed scopes) :
    (∃ placed, scopes = [⟨none, placed⟩]) ∨
      ∃ c inside s outer, scopes = ⟨some c, inside⟩ :: s :: outer := by
  obtain ⟨n, hn⟩ := h
  cases scopes with
  | nil => simp at hn
  | cons s outer =>
    obtain ⟨container, placed⟩ := s
    cases n with
    | zero =>
      simp only [List.map_cons, Scope.id?, List.replicate_zero, List.nil_append,
        List.cons.injEq, List.map_eq_nil_iff, Option.isSome_eq_false_iff, Option.isNone_map,
        Option.isNone_iff_eq_none] at hn
      obtain ⟨rfl, rfl⟩ := hn
      exact .inl ⟨placed, rfl⟩
    | succ n =>
      cases container with
      | none => simp [Scope.id?, List.replicate_succ] at hn
      | some c =>
        cases outer with
        | nil => simp [List.replicate_succ] at hn
        | cons s outer => exact .inr ⟨c, placed, s, outer, rfl⟩

/-- Closing is refused if no container is open. -/
theorem closeContainer_refused_iff {b : Builder} (h : Bottomed b.scopes) :
    b.closeContainer.1 = some .closesTopLevel ↔ openIds b.scopes = [] := by
  rcases h.cases with ⟨placed, hs⟩ | ⟨c, inside, s, outer, hs⟩
  · simp [closeContainer, hs, openIds, Scope.id?]
  · simp [closeContainer, hs, openIds, Scope.id?]

/-- The refusal takes the scope of the top level away. -/
theorem closeContainer_of_refused {b : Builder} (h : Bottomed b.scopes)
    (hrefused : b.closeContainer.1 = some .closesTopLevel) :
    b.closeContainer.2 = { b with scopes := [] } := by
  rcases h.cases with ⟨placed, hs⟩ | ⟨c, inside, s, outer, hs⟩
  · simp [closeContainer, hs]
  · simp [closeContainer, hs] at hrefused

/-- Without scopes all that files something fails. -/
theorem raises_without_scopes {b : Builder} (h : b.scopes ≠ []) (op : Op) :
    ({ b with scopes := [] } : Builder).raises op = (b.raises op || op.files) := by
  have hopen : b.scopes.isEmpty = false := List.isEmpty_eq_false_iff.mpr h
  cases op with
  | closeContainer => simp [raises, closeContainer, Op.files]
  | visitBranch seed q => simp [raises, hopen]
  | _ => simp [raises, hopen, Op.files]

end Builder

namespace Ledger

/-- The ledger of a drawing with more scopes around those that are open. -/
def within (s : Ledger) (outer : List Scope) : Ledger :=
  { s with builder := s.builder.within outer }

/-- The ledger after a container was to be closed, whatever came of it. -/
def tryClose (s : Ledger) : Ledger :=
  { s with builder := s.builder.closeContainer.2 }

/-- One operation on a drawing that may have no open scope. -/
def attempt (s : Ledger) (op : Builder.Op) : Option Ledger :=
  if s.builder.raises op then none else s.perform op

/-- Operations one after another on a drawing that may have no open scope. -/
def attemptAll (s : Ledger) : List Builder.Op → Option Ledger
  | [] => some s
  | op :: ops => (s.attempt op).bind fun s => s.attemptAll ops

/-- With an open scope, an operation raises an error exactly where it has no result. -/
theorem raises_eq_isNone {s : Ledger} (h : s.builder.scopes ≠ []) (op : Builder.Op) :
    s.builder.raises op = (s.perform op).isNone := by
  have hopen : s.builder.scopes.isEmpty = false := List.isEmpty_eq_false_iff.mpr h
  cases op with
  | closeContainer =>
    rw [Builder.raises, perform]
    obtain ⟨e, b⟩ := s.builder.closeContainer
    cases e <;> rfl
  | visitBranch seed q =>
    rw [Builder.raises, perform, hopen, Bool.false_and, Bool.or_false]
    cases q.undrawable? s.builder.expandGroups <;> rfl
  | _ => simp [Builder.raises, perform, hopen]

/-- What an operation that raises no error does, it also does with more scopes around those that are
open. -/
theorem perform_within {s : Ledger} {op : Builder.Op} (h : s.builder.raises op = false)
    (outer : List Scope) :
    (s.within outer).perform op = (s.perform op).map fun s' => s'.within outer := by
  cases op with
  | nextId | startBranch => rfl
  | connect source target =>
    exact congrArg (fun b => some { s with builder := b })
      (Builder.connect_within outer source target s.builder)
  | addNode label detail source =>
    have hscopes : s.builder.scopes ≠ [] := by simpa [Builder.raises, Builder.Op.files] using h
    simp only [perform, within, Builder.addNode_within outer hscopes, Option.map_some]
    rfl
  | openContainer label detail source =>
    simp only [perform, within, Builder.openContainer_eq, Option.map_some]
    rw [Builder.drawOpen_within]
    rfl
  | closeContainer =>
    -- The container that is closed has a scope around it.
    obtain ⟨c, inside, inner, next, hs⟩ := Builder.exists_scopes_of_close h
    have hclose := Builder.closeContainer_within outer hs
    simp only [perform, within, hclose]
    obtain ⟨e, b⟩ := s.builder.closeContainer
    cases e <;> rfl
  | visitBranch seed q =>
    have hids : Builder.visitIds q ((s.builder.within outer).startBranch seed) =
        Builder.visitIds q (s.builder.startBranch seed) := by
      rw [Builder.visitIds_eq, Builder.visitIds_eq]
      rfl
    have hdraw := Builder.visitBranch_within h outer
    have hexpand : (s.builder.within outer).expandGroups = s.builder.expandGroups := rfl
    simp only [perform, within, hids, hdraw, hexpand]
    cases q.undrawable? s.builder.expandGroups <;> rfl

/-- What operations that raise no error do, they also do with more scopes around those that are
open. -/
theorem attemptAll_within {s s' : Ledger} {ops : List Builder.Op} (h : s.attemptAll ops = some s')
    (outer : List Scope) : (s.within outer).run ops = some (s'.within outer) := by
  induction ops generalizing s with
  | nil => exact congrArg (Option.map fun s => s.within outer) h
  | cons op ops ih =>
    obtain ⟨mid, hattempt, hrest⟩ := Option.bind_eq_some_iff.mp h
    rw [attempt] at hattempt
    split at hattempt
    · exact absurd hattempt (by simp)
    · next hraises =>
      rw [run, perform_within (by simpa using hraises) outer, hattempt]
      exact ih hrest

/-- Closing is refused exactly if no container is open. Then the scope of the top level is gone, with
all that was filed, and nothing else is changed; so the drawing is never what it was before. After it
an operation raises an error if it would have raised one before, or if it files something. What
operations that raise none do is what they would have done without the refused one, but for the scope
that is gone. -/
theorem close_refused {expand : Bool} {ops : List Builder.Op} {s : Ledger}
    (h : (fresh expand).run ops = some s) :
    (∀ op, s.builder.raises op = (s.perform op).isNone) ∧
      (s.builder.closeContainer.1 = some .closesTopLevel ↔
        Builder.openIds s.builder.scopes = []) ∧
      (s.builder.closeContainer.1 = some .closesTopLevel →
        s.tryClose.builder = { s.builder with scopes := [] } ∧ s.tryClose.builder ≠ s.builder ∧
          (∀ op, s.tryClose.builder.raises op = (s.builder.raises op || op.files)) ∧
          ∀ later s', s.tryClose.attemptAll later = some s' →
            s.run later = some (s'.within s.builder.scopes)) := by
  have hbottom := ((invariant_fresh expand).run h).1.bottomed
  have hopen : s.builder.scopes ≠ [] := hbottom.ne_nil
  refine ⟨raises_eq_isNone hopen, Builder.closeContainer_refused_iff hbottom, fun hrefused => ?_⟩
  have hafter : s.tryClose.builder = { s.builder with scopes := [] } :=
    Builder.closeContainer_of_refused hbottom hrefused
  refine ⟨hafter, fun hsame => ?_, fun op => ?_, fun later s' hlater => ?_⟩
  · rw [hafter] at hsame
    exact hopen (congrArg Builder.scopes hsame).symm
  · rw [hafter, Builder.raises_without_scopes hopen]
  · have hlost : s.tryClose.within s.builder.scopes = s := by
      rw [within, hafter]
      rfl
    rw [← attemptAll_within hlater, hlost]

/-- A node is drawn and the top level is closed: the node is gone, and no further one can be drawn. -/
theorem close_refused_node :
    ∃ s, (fresh false).run [.addNode "a" none none] = some s ∧
      Builder.filedIds s.builder.scopes = [Text.ofString "node_0"] ∧
      s.builder.closeContainer.1 = some .closesTopLevel ∧
      Builder.filedIds s.tryClose.builder.scopes = [] ∧ s.tryClose.builder ≠ s.builder ∧
      s.tryClose.builder.raises (.addNode "b" none none) = true ∧
      s.builder.raises (.addNode "b" none none) = false := by
  obtain ⟨s, hrun, hfiled, hscopes⟩ : ∃ s, (fresh false).run [.addNode "a" none none] = some s ∧
      Builder.filedIds s.builder.scopes = [Text.ofString "node_0"] ∧
      Builder.openIds s.builder.scopes = [] := ⟨_, rfl, by decide, by decide⟩
  obtain ⟨hraises, hiff, hrefused⟩ := close_refused hrun
  have hclose := hiff.mpr hscopes
  obtain ⟨hafter, hne, hlater, -⟩ := hrefused hclose
  refine ⟨s, hrun, hfiled, hclose, ?_, hne, ?_, hraises _⟩
  · rw [hafter]
    rfl
  · exact (hlater _).trans (Bool.or_true _)

end Ledger
end JqFlow
