import JqFlow.Proofs.Drawing.Folding
import JqFlow.Proofs.Drawing.Labelled
import JqFlow.Proofs.Drawing.EdgeTypes

/-!
# Expanding groups adds detail

Drawing the queries in parentheses as containers only adds to a graph: with these containers folded,
the graph is the one that is drawn without them. The only thing that can differ is that an edge has
lost its label: an edge that leaves a container has none if nothing was drawn in the last branch
inside, and expanding a group can make that branch one of the body of the group.

## Main definitions

- `Folds`: a renaming numbers what is left of a forest

## Main statements

- `renamedList_flowElements`: the folded elements of a flow are those of the folded flow
- `flowEdges_folded`: its edges are those of the folded flow
- `Graph.folded_build?`: the folded graph of a query is its graph without expansion, but for labels
  that were lost
- `Graph.folded_build_of_parse`: for a query that was read none is lost
-/

namespace JqFlow

open Builder (nodeId)
open Element (foldedList hiddenList renamedList keptIds)

/-! ### Renamings -/

/-- A renaming numbers what is left of a forest from `m` on, and the ids that are gone are those of
what was inside its groups. -/
structure Folds (rename : Id → Id) (gone : List Id) (m : Nat) (es : List Element) : Prop where
  kept : ∀ id ∈ keptIds es, id ∉ gone
  hidden : ∀ id ∈ hiddenList es, id ∈ gone
  numbers : (keptIds es).map rename = nodeIds m (keptIds es).length

namespace Folds

variable {rename : Id → Id} {gone : List Id} {m : Nat} {es es' : List Element} {id : Id}

theorem append (h : Folds rename gone m (es ++ es')) :
    Folds rename gone m es ∧ Folds rename gone (m + (keptIds es).length) es' := by
  obtain ⟨hkept, hhidden, hnumbers⟩ := h
  rw [Element.keptIds_append] at hkept hnumbers
  rw [Element.hiddenList_append] at hhidden
  rw [List.map_append, List.length_append, nodeIds_add] at hnumbers
  obtain ⟨hfirst, hrest⟩ := List.append_inj hnumbers (by simp [nodeIds])
  exact ⟨⟨fun id hid => hkept id (List.mem_append_left _ hid),
      fun id hid => hhidden id (List.mem_append_left _ hid), hfirst⟩,
    ⟨fun id hid => hkept id (List.mem_append_right _ hid),
      fun id hid => hhidden id (List.mem_append_right _ hid), hrest⟩⟩

/-- An element that is kept stands before what else is kept. -/
theorem cons (h : Folds rename gone m es) {ids : List Id} (hkept : keptIds es = id :: ids) :
    id ∉ gone ∧ rename id = nodeId m ∧ (∀ id ∈ ids, id ∉ gone) ∧
      ids.map rename = nodeIds (m + 1) ids.length := by
  obtain ⟨hnot, -, hnumbers⟩ := h
  rw [hkept] at hnot hnumbers
  rw [List.map_cons, List.length_cons, Nat.add_comm, nodeIds_one_add] at hnumbers
  obtain ⟨hid, hids⟩ := List.cons.inj hnumbers
  obtain ⟨hfirst, hrest⟩ := List.forall_mem_cons.mp hnot
  exact ⟨hfirst, hid, hrest, hids⟩

theorem node {label : Text} {shape : Shape} {detail : Option Text}
    (h : Folds rename gone m (.node id label shape detail :: es)) :
    id ∉ gone ∧ rename id = nodeId m ∧ Folds rename gone (m + 1) es := by
  obtain ⟨hid, hrename, hkept, hnumbers⟩ := h.cons (Element.keptIds_node id label shape detail es)
  exact ⟨hid, hrename, hkept, h.hidden, hnumbers⟩

theorem container {label : Text} {detail : Option Text} (hlabel : label ≠ groupLabel)
    (h : Folds rename gone m [.container id label es detail]) :
    id ∉ gone ∧ rename id = nodeId m ∧ Folds rename gone (m + 1) es := by
  obtain ⟨hid, hrename, hkept, hnumbers⟩ := h.cons (Element.keptIds_container hlabel id es detail)
  refine ⟨hid, hrename, hkept, fun id hid => h.hidden id ?_, hnumbers⟩
  rwa [hiddenList, hiddenList, List.append_nil, Element.hidden, if_neg hlabel]

theorem group {detail : Option Text}
    (h : Folds rename gone m [.container id groupLabel es detail]) :
    id ∉ gone ∧ rename id = nodeId m ∧ ∀ id ∈ declaredIds [] es, id ∈ gone := by
  obtain ⟨hid, hrename, -, -⟩ := h.cons (Element.keptIds_group id es detail)
  refine ⟨hid, hrename, fun id hid => h.hidden id ?_⟩
  rwa [hiddenList, hiddenList, List.append_nil, Element.hidden, if_pos rfl]

end Folds

/-! ### Elements -/

mutual

theorem Figure.length_keptIds (f : Figure) (n : Nat) :
    (keptIds (f.elements n)).length = f.folded.size := by
  cases f with
  | mark => rfl
  | fork label type operands =>
    rw [Figure.elements, Element.keptIds_node, List.length_cons, length_keptIds_branch operands,
      Figure.folded, Figure.size, Nat.add_comm]
  | box label detail type branches =>
    rw [Figure.elements, Figure.folded]
    split
    · next h =>
      subst h
      rw [Element.keptIds_group]
      rfl
    · next h =>
      rw [Element.keptIds_container h, List.length_cons, length_keptIds_branch branches,
        Figure.size, Nat.add_comm]

/-- As many elements are left of a flow as its folded flow has. -/
theorem length_keptIds_flow (fs : List Figure) (n : Nat) :
    (keptIds (flowElements n fs)).length = flowSize (foldedFlow fs) := by
  cases fs with
  | nil => rfl
  | cons f fs =>
    rw [flowElements, Element.keptIds_append, List.length_append, f.length_keptIds,
      length_keptIds_flow fs, foldedFlow, flowSize]

theorem length_keptIds_branch (flows : List (List Figure)) (n : Nat) :
    (keptIds (branchElements n flows)).length = branchSize (foldedBranches flows) := by
  cases flows with
  | nil => rfl
  | cons flow flows =>
    rw [branchElements, Element.keptIds_append, List.length_append, length_keptIds_flow flow,
      length_keptIds_branch flows, foldedBranches, branchSize]

end

-- The two drawings number their elements at different speeds: one from `n` on with all elements, the
-- other from `m` on without those inside of groups. `Folds` relates the two at each point of a flow.

section Renaming

variable {rename : Id → Id} {gone : List Id}

/-- The first of a flow is numbered first, and the rest after what is left of it. -/
theorem Folds.flow_cons {f : Figure} {fs : List Figure} {m n : Nat}
    (h : Folds rename gone m (flowElements n (f :: fs))) :
    Folds rename gone m (f.elements n) ∧
      Folds rename gone (m + f.folded.size) (flowElements (n + f.size) fs) := by
  rw [← f.length_keptIds n]
  exact Folds.append h

theorem Folds.branch_cons {flow : List Figure} {flows : List (List Figure)} {m n : Nat}
    (h : Folds rename gone m (branchElements n (flow :: flows))) :
    Folds rename gone m (flowElements n flow) ∧
      Folds rename gone (m + flowSize (foldedFlow flow))
        (branchElements (n + flowSize flow) flows) := by
  rw [← length_keptIds_flow flow n]
  exact Folds.append h

/-- A figure keeps its own element. -/
theorem Folds.figure {f : Figure} {m n : Nat} (h : Folds rename gone m (f.elements n)) :
    nodeId n ∉ gone ∧ rename (nodeId n) = nodeId m := by
  cases f with
  | mark => exact ⟨h.node.1, h.node.2.1⟩
  | fork => exact ⟨h.node.1, h.node.2.1⟩
  | box label detail type branches =>
    by_cases hlabel : label = groupLabel
    · subst hlabel
      exact ⟨h.group.1, h.group.2.1⟩
    · exact ⟨(h.container hlabel).1, (h.container hlabel).2.1⟩

mutual

theorem Figure.renamedList_elements (f : Figure) {m n : Nat}
    (h : Folds rename gone m (f.elements n)) :
    renamedList rename (foldedList (f.elements n)) = f.folded.elements m := by
  cases f with
  | mark label type =>
    show [Element.node (rename (nodeId n)) label .rectangle none] = _
    rw [h.figure.2]
    rfl
  | fork label type operands =>
    show Element.node (rename (nodeId n)) label .rectangle none ::
      renamedList rename (foldedList (branchElements (n + 1) operands)) = _
    rw [h.figure.2, renamedList_branchElements operands h.node.2.2]
    rfl
  | box label detail type branches =>
    rw [Figure.elements] at h ⊢
    rw [foldedList, Element.folded, foldedList, Figure.folded]
    split
    · next hlabel =>
      subst hlabel
      show [Element.node (rename (nodeId n)) groupLabel .rectangle none] = _
      rw [h.group.2.1]
      rfl
    · next hlabel =>
      show [Element.container (rename (nodeId n)) label
        (renamedList rename (foldedList (branchElements (n + 1) branches))) detail] = _
      rw [(h.container hlabel).2.1, renamedList_branchElements branches (h.container hlabel).2.2]
      rfl

/-- The folded elements of a flow are those of the folded flow. -/
theorem renamedList_flowElements (fs : List Figure) {m n : Nat}
    (h : Folds rename gone m (flowElements n fs)) :
    renamedList rename (foldedList (flowElements n fs)) = flowElements m (foldedFlow fs) := by
  cases fs with
  | nil => rfl
  | cons f fs =>
    obtain ⟨hf, hfs⟩ := h.flow_cons
    rw [flowElements, Element.foldedList_append, Element.renamedList_append,
      f.renamedList_elements hf, renamedList_flowElements fs hfs, foldedFlow, flowElements]

theorem renamedList_branchElements (flows : List (List Figure)) {m n : Nat}
    (h : Folds rename gone m (branchElements n flows)) :
    renamedList rename (foldedList (branchElements n flows)) =
      branchElements m (foldedBranches flows) := by
  cases flows with
  | nil => rfl
  | cons flow flows =>
    obtain ⟨hflow, hflows⟩ := h.branch_cons
    rw [branchElements, Element.foldedList_append, Element.renamedList_append,
      renamedList_flowElements flow hflow, renamedList_branchElements flows hflows,
      foldedBranches, branchElements]

end

/-! ### Edges -/

/-- What is left of some edges becomes other edges: the ends are renamed, and the labels are related
by `R`. -/
def EdgesFold (R : Option Text → Option Text → Prop) (rename : Id → Id) (gone : List Id)
    (ws ws' : List Edge) : Prop :=
  List.Forall₂
    (fun w w' => w'.ends = (rename w.source, rename w.target) ∧ R w.label w'.label)
    (ws.filter (Edge.avoids gone)) ws'

variable {R : Option Text → Option Text → Prop}

namespace EdgesFold

variable {ws ws₁ ws' ws₁' : List Edge}

theorem nil : EdgesFold R rename gone [] [] := List.Forall₂.nil

theorem append (h : EdgesFold R rename gone ws ws') (h₁ : EdgesFold R rename gone ws₁ ws₁') :
    EdgesFold R rename gone (ws ++ ws₁) (ws' ++ ws₁') := by
  rw [EdgesFold, List.filter_append]
  exact List.rel_append h h₁

theorem cons {source target : Id} {label label' : Option Text} (hsource : source ∉ gone)
    (htarget : target ∉ gone) (hlabel : R label label') (h : EdgesFold R rename gone ws ws') :
    EdgesFold R rename gone (⟨source, target, label⟩ :: ws)
      (⟨rename source, rename target, label'⟩ :: ws') := by
  rw [EdgesFold, List.filter_cons_of_pos (by simp [Edge.avoids, hsource, htarget])]
  exact .cons ⟨rfl, hlabel⟩ h

/-- Nothing is left of edges that lead to what is gone. -/
theorem of_gone (h : ∀ w ∈ ws, w.target ∈ gone) : EdgesFold R rename gone ws [] := by
  have hnil : ws.filter (Edge.avoids gone) = [] := by
    rw [List.filter_eq_nil_iff]
    intro w hw
    simp [Edge.avoids, h w hw]
  rw [EdgesFold, hnil]
  exact .nil

end EdgesFold

/-- A flow ends on an element that is kept. -/
theorem Folds.flowEnd {fs : List Figure} {m n : Nat} (h : Folds rename gone m (flowElements n fs))
    {source : Id} (hsource : source ∉ gone) :
    JqFlow.flowEnd source n fs ∉ gone ∧
      rename (JqFlow.flowEnd source n fs) =
        JqFlow.flowEnd (rename source) m (foldedFlow fs) := by
  induction fs generalizing source m n with
  | nil => exact ⟨hsource, rfl⟩
  | cons f fs ih =>
    obtain ⟨hf, hfs⟩ := h.flow_cons
    obtain ⟨hgone, hrename⟩ := hf.figure
    have hrest := ih hfs hgone
    rwa [hrename] at hrest

/-- Are the labels of the edges that leave figures related to those after folding? -/
def LabelsFold (R : Option Text → Option Text → Prop) (fs : List Figure) : Prop :=
  ∀ f ∈ fs, R f.leaving f.folded.leaving

theorem Figure.mem_all (f : Figure) : f ∈ f.all := by
  cases f <;> exact List.mem_cons_self

theorem flowLeaving_folded {fs : List Figure} (h : LabelsFold R (flowAll fs))
    {label label' : Option Text} (hlabel : R label label') :
    R (flowLeaving label fs) (flowLeaving label' (foldedFlow fs)) := by
  induction fs generalizing label label' with
  | nil => exact hlabel
  | cons f fs ih =>
    exact ih (fun g hg => h g (List.mem_append_right _ hg))
      (h f (List.mem_append_left _ f.mem_all))

/-- The edge from the end of a flow is left if the one to which it leads is. -/
theorem exitEdges_folded (hnone : R none none) {fs : List Figure} {m n : Nat}
    (h : Folds rename gone m (flowElements n fs)) {source target : Id} (hsource : source ∉ gone)
    (htarget : target ∉ gone) (hlabels : LabelsFold R (flowAll fs)) :
    EdgesFold R rename gone (exitEdges source n target fs)
      (exitEdges (rename source) m (rename target) (foldedFlow fs)) := by
  cases fs with
  | nil => exact .nil
  | cons f fs =>
    obtain ⟨hend, hrename⟩ := h.flowEnd hsource
    have hlabel := flowLeaving_folded hlabels hnone
    rw [foldedFlow, exitEdges, exitEdges, ← foldedFlow, ← hrename]
    exact .cons hend htarget hlabel .nil

mutual

theorem Figure.edges_folded (hnone : R none none) (f : Figure) {m n : Nat}
    (h : Folds rename gone m (f.elements n)) {source : Id} (hsource : source ∉ gone)
    {label label' : Option Text} (hlabel : R label label') (hlabels : LabelsFold R f.all) :
    EdgesFold R rename gone (f.edges source label n)
      (f.folded.edges (rename source) label' m) := by
  obtain ⟨hgone, hrename⟩ := h.figure
  have henter {ws ws' : List Edge} (hws : EdgesFold R rename gone ws ws') :
      EdgesFold R rename gone (⟨source, nodeId n, label⟩ :: ws)
        (⟨rename source, nodeId m, label'⟩ :: ws') := by
    rw [← hrename]
    exact .cons hsource hgone hlabel hws
  have hinside : LabelsFold R f.all.tail := fun g hg => hlabels g (List.mem_of_mem_tail hg)
  cases f with
  | mark => exact henter .nil
  | fork _ _ operands =>
    have hedges := operandEdges_folded hnone operands h.node.2.2 hgone hinside
    rw [hrename] at hedges
    exact henter hedges
  | box title detail _ branches =>
    rw [Figure.folded]
    split
    -- Only the edge into a group is left: all others of it enter what is hidden.
    · next htitle =>
      subst htitle
      refine henter (.of_gone fun w hw => h.group.2.2 _ ?_)
      rw [declaredIds_branchElements]
      exact branchEdges_target hw
    · next htitle =>
      have hedges := branchEdges_folded hnone branches (h.container htitle).2.2 hgone hinside
      rw [hrename] at hedges
      exact henter hedges

/-- What is left of the edges of a flow becomes the edges of the folded flow. -/
theorem flowEdges_folded (hnone : R none none) (fs : List Figure) {m n : Nat}
    (h : Folds rename gone m (flowElements n fs)) {source : Id} (hsource : source ∉ gone)
    {label label' : Option Text} (hlabel : R label label') (hlabels : LabelsFold R (flowAll fs)) :
    EdgesFold R rename gone (flowEdges source label n fs)
      (flowEdges (rename source) label' m (foldedFlow fs)) := by
  cases fs with
  | nil => exact .nil
  | cons f fs =>
    obtain ⟨hf, hfs⟩ := h.flow_cons
    obtain ⟨hgone, hrename⟩ := hf.figure
    have hfirst := f.edges_folded hnone hf hsource hlabel
      fun g hg => hlabels g (List.mem_append_left _ hg)
    have hrest := flowEdges_folded hnone fs hfs hgone (hlabels f (List.mem_append_left _ f.mem_all))
      fun g hg => hlabels g (List.mem_append_right _ hg)
    rw [hrename] at hrest
    exact hfirst.append hrest

theorem operandEdges_folded (hnone : R none none) (flows : List (List Figure)) {m n : Nat}
    (h : Folds rename gone m (branchElements n flows)) {id : Id} (hid : id ∉ gone)
    (hlabels : LabelsFold R (branchAll flows)) :
    EdgesFold R rename gone (operandEdges id n flows)
      (operandEdges (rename id) m (foldedBranches flows)) := by
  cases flows with
  | nil => exact .nil
  | cons flow flows =>
    obtain ⟨hflow, hflows⟩ := h.branch_cons
    have hfirst : LabelsFold R (flowAll flow) := fun g hg => hlabels g (List.mem_append_left _ hg)
    have hedges := flowEdges_folded hnone flow hflow hid hnone hfirst
    have hback := exitEdges_folded hnone hflow hid hid hfirst
    exact (hedges.append hback).append (operandEdges_folded hnone flows hflows hid
      fun g hg => hlabels g (List.mem_append_right _ hg))

theorem branchEdges_folded (hnone : R none none) (flows : List (List Figure)) {m n : Nat}
    (h : Folds rename gone m (branchElements n flows)) {id : Id} (hid : id ∉ gone)
    (hlabels : LabelsFold R (branchAll flows)) :
    EdgesFold R rename gone (branchEdges id n flows)
      (branchEdges (rename id) m (foldedBranches flows)) := by
  cases flows with
  | nil => exact .nil
  | cons flow flows =>
    obtain ⟨hflow, hflows⟩ := h.branch_cons
    have hedges := flowEdges_folded hnone flow hflow hid hnone
      fun g hg => hlabels g (List.mem_append_left _ hg)
    exact hedges.append (branchEdges_folded hnone flows hflows hid
      fun g hg => hlabels g (List.mem_append_right _ hg))

end

end Renaming

/-! ### Labels -/

theorem Figure.type_folded (f : Figure) : f.folded.type = f.type := by
  cases f with
  | box label detail type branches =>
    rw [Figure.folded]
    split <;> rfl
  | _ => rfl

/-- Is this a container that is drawn for a query in parentheses? -/
def Figure.isGroup : Figure → Bool
  | .box label .. => label = groupLabel
  | _ => false

section Dangling

variable {S : Bool → Bool → Prop}

-- Folding changes nothing but groups: after a group a branch may be still to begin, after the mark for
-- it none is. So what holds of that change holds of the change in whatever is around the group.

mutual

theorem Figure.dangles_folded (hrefl : ∀ b, S b b) (f : Figure)
    (h : ∀ g ∈ f.all, g.isGroup = true → S g.dangles false) : S f.dangles f.folded.dangles := by
  cases f with
  | mark => exact hrefl false
  | fork => exact hrefl false
  | box label detail type branches =>
    rw [Figure.folded]
    split
    · next hlabel => exact h _ (Figure.mem_all _) (decide_eq_true hlabel)
    · exact branchesDangle_folded hrefl branches (fun g hg => h g (List.mem_cons_of_mem _ hg))
        (hrefl false)

/-- A change in groups only changes in the same way whether a branch is still to begin. -/
theorem flowDangles_folded (hrefl : ∀ b, S b b) (fs : List Figure)
    (h : ∀ g ∈ flowAll fs, g.isGroup = true → S g.dangles false) {branching branching' : Bool}
    (hbranching : S branching branching') :
    S (flowDangles branching fs) (flowDangles branching' (foldedFlow fs)) := by
  cases fs with
  | nil => exact hbranching
  | cons f fs =>
    have hfirst := f.dangles_folded hrefl fun g hg => h g (List.mem_append_left _ hg)
    exact flowDangles_folded hrefl fs (fun g hg => h g (List.mem_append_right _ hg)) hfirst

theorem branchesDangle_folded (hrefl : ∀ b, S b b) (flows : List (List Figure))
    (h : ∀ g ∈ branchAll flows, g.isGroup = true → S g.dangles false) {branching branching' : Bool}
    (hbranching : S branching branching') :
    S (branchesDangle branching flows) (branchesDangle branching' (foldedBranches flows)) := by
  cases flows with
  | nil => exact hbranching
  | cons flow flows =>
    have hfirst := flowDangles_folded hrefl flow (fun g hg => h g (List.mem_append_left _ hg))
      (hrefl true)
    exact branchesDangle_folded hrefl flows (fun g hg => h g (List.mem_append_right _ hg)) hfirst

end

end Dangling

/-- Expanding groups does no more to a label than to lose it. -/
theorem labelsFold_or_none (fs : List Figure) :
    LabelsFold (fun label label' => label = label' ∨ label = none) fs := by
  intro f _
  have hfolded : f.folded.dangles = true → f.dangles = true :=
    f.dangles_folded (S := fun b b' => b' = true → b = true) (fun _ => id)
      fun _ _ _ h => absurd h Bool.false_ne_true
  rw [Figure.leaving, Figure.leaving, f.type_folded]
  cases hdangles : f.dangles with
  | true => exact .inr rfl
  | false =>
    rw [hdangles] at hfolded
    rw [Bool.eq_false_iff.mpr fun h => absurd (hfolded h) Bool.false_ne_true]
    exact .inl rfl

/-- Something is drawn at the end of every group. -/
def GroupsEnd (fs : List Figure) : Prop :=
  ∀ f ∈ fs, f.isGroup = true → f.dangles = false

mutual

theorem Figure.all_subset (f : Figure) {g : Figure} (h : g ∈ f.all) : g.all ⊆ f.all := by
  cases f with
  | mark => rw [List.mem_singleton.mp h]; exact fun _ => id
  | fork label type operands =>
    rcases List.mem_cons.mp h with rfl | h
    · exact fun _ => id
    · exact List.Subset.trans (branchAll_subset operands h) (List.subset_cons_self _ _)
  | box label detail type branches =>
    rcases List.mem_cons.mp h with rfl | h
    · exact fun _ => id
    · exact List.Subset.trans (branchAll_subset branches h) (List.subset_cons_self _ _)

/-- What is inside a figure of a flow is inside the flow. -/
theorem flowAll_subset (fs : List Figure) {g : Figure} (h : g ∈ flowAll fs) :
    g.all ⊆ flowAll fs := by
  cases fs with
  | nil => exact absurd h List.not_mem_nil
  | cons f fs =>
    rcases List.mem_append.mp h with h | h
    · exact List.Subset.trans (f.all_subset h) (List.subset_append_left _ _)
    · exact List.Subset.trans (flowAll_subset fs h) (List.subset_append_right _ _)

theorem branchAll_subset (flows : List (List Figure)) {g : Figure} (h : g ∈ branchAll flows) :
    g.all ⊆ branchAll flows := by
  cases flows with
  | nil => exact absurd h List.not_mem_nil
  | cons flow flows =>
    rcases List.mem_append.mp h with h | h
    · exact List.Subset.trans (flowAll_subset flow h) (List.subset_append_left _ _)
    · exact List.Subset.trans (branchAll_subset flows h) (List.subset_append_right _ _)

end

/-- If something is drawn at the end of every group, then labels stay. -/
theorem labelsFold_eq {fs : List Figure} (h : GroupsEnd (flowAll fs)) :
    LabelsFold Eq (flowAll fs) := by
  intro f hf
  have hfolded : f.dangles = f.folded.dangles :=
    f.dangles_folded (fun _ => rfl) fun g hg => h g (flowAll_subset fs hf hg)
  rw [Figure.leaving, Figure.leaving, f.type_folded, hfolded]

/-- The groups of a drawing are drawn for the queries in parentheses. -/
theorem Query.exists_group {q : Query} {f : Figure} (hf : f ∈ flowAll (q.figures true))
    (hgroup : f.isGroup = true) :
    ∃ body, .query (.group body) ∈ q.drawn true ∧
      f.dangles = flowDangles true (body.figures true) := by
  obtain ⟨k, hk⟩ := List.mem_iff_getElem?.mp hf
  obtain ⟨part, hpart, hdrawn⟩ := exists_part hk
  have hmem := List.mem_of_getElem? hpart
  cases part with
  | key key =>
    obtain ⟨flow, rfl⟩ := hdrawn
    exact absurd (of_decide_eq_true hgroup) (objectKeyTitle_ne_groupLabel key)
  | query p =>
    obtain rfl : f = p.figure true := hdrawn
    cases p with
    | group body => exact ⟨body, hmem, rfl⟩
    | call name args =>
      exact absurd (of_decide_eq_true hgroup) (functionTitle_ne_groupLabel name)
    | array body => exact absurd (show "Array" = groupLabel from of_decide_eq_true hgroup) (by decide)
    | object entries =>
      exact absurd (show "Object" = groupLabel from of_decide_eq_true hgroup) (by decide)
    | _ => exact absurd hgroup Bool.false_ne_true

/-! ### Queries that were read -/

namespace Query

theorem pipesCompleteOption_of_forall {o : Option Query}
    (h : ∀ q ∈ o.toList, q.pipesComplete) : pipesCompleteOption o := by
  cases o with
  | none => rfl
  | some q => exact h q (List.mem_singleton.mpr rfl)

theorem pipesCompleteList_of_forall {qs : List Query} (h : ∀ q ∈ qs, q.pipesComplete) :
    pipesCompleteList qs := by
  induction qs with
  | nil => rfl
  | cons q qs ih =>
    rw [pipesCompleteList, Bool.and_eq_true]
    exact ⟨h q List.mem_cons_self, ih fun p hp => h p (List.mem_cons_of_mem q hp)⟩

theorem pipesCompleteEntries_of_forall {entries : List (Entry Query)}
    (h : ∀ e ∈ entries, e.value.pipesComplete) : pipesCompleteEntries entries := by
  induction entries with
  | nil => rfl
  | cons e entries ih =>
    rw [pipesCompleteEntries, Bool.and_eq_true]
    exact ⟨h e List.mem_cons_self, ih fun e' he' => h e' (List.mem_cons_of_mem e he')⟩

/-- The pipes of a regular query have both sides. -/
theorem pipesComplete_of_regular {q : Query} (h : q.Throughout IsRegular) : q.pipesComplete := by
  induction h with
  | @intro q here _ ih =>
    cases q with
    | operation op l r =>
      match l, r, here with
      | some l, some r, _ =>
        simp only [parts, Option.toList_some, List.singleton_append, List.forall_mem_cons] at ih
        simp [pipesComplete, pipesCompleteOption, ih.1, ih.2.1]
    | unary op operand => exact ih operand (List.mem_singleton.mpr rfl)
    | call name args => exact pipesCompleteList_of_forall ih
    | array body => exact pipesCompleteOption_of_forall ih
    | object entries =>
      exact pipesCompleteEntries_of_forall fun e he =>
        ih e.value (List.mem_flatMap.mpr ⟨e, he, List.mem_cons_self⟩)
    | bind source name body =>
      rw [pipesComplete, Bool.and_eq_true]
      exact ⟨ih source List.mem_cons_self, ih body (List.mem_cons_of_mem _ List.mem_cons_self)⟩
    | group body => exact ih body (List.mem_singleton.mpr rfl)
    | _ => rfl

theorem pipesComplete_of_parse {t : Text} {q : Query} (h : parse t = .ok q) : q.pipesComplete :=
  pipesComplete_of_regular ((isWhole_of_parse h).proper.mono fun _ => And.left)

/-- If every pipe has both sides, then something is drawn at the end of every group. -/
theorem groupsEnd_of_pipesComplete {q : Query} (h : q.pipesComplete) :
    GroupsEnd (flowAll (q.figures true)) := fun f hf _ =>
  (solid_of_mem_flowAll _ (q.figures_drawable true h).2 f hf).dangles

end Query

/-! ### Graphs -/

/-- Edges with the same ends and the same labels are the same. -/
theorem Edge.eq_of_forall₂ {ws ws' : List Edge}
    (h : List.Forall₂ (fun w w' => w.ends = w'.ends ∧ w.label = w'.label) ws ws') : ws = ws' := by
  induction h with
  | nil => rfl
  | @cons w w' ws ws' hw _ ih =>
    obtain ⟨source, target, label⟩ := w
    obtain ⟨source', target', label'⟩ := w'
    obtain ⟨hends, rfl⟩ := hw
    obtain ⟨rfl, rfl⟩ := Prod.mk.inj hends
    rw [ih]

namespace Graph

/-- The ids between those of the start node and the end node are numbered from 0 on. -/
theorem renumber_eq {ids : List Id} {endId : Id} (h : (startId :: ids ++ [endId]).Nodup) :
    renumber (startId :: ids ++ [endId]) endId startId = startId ∧
      ids.map (renumber (startId :: ids ++ [endId]) endId) = nodeIds 0 ids.length ∧
      renumber (startId :: ids ++ [endId]) endId endId = endIdOf ids.length := by
  have hstart {id : Id} (hid : id ∈ ids ++ [endId]) : id ≠ startId := by
    rintro rfl
    exact (List.nodup_cons.mp h).1 hid
  refine ⟨if_pos rfl, List.ext_getElem (by simp [nodeIds]) fun k hk _ => ?_, ?_⟩
  · rw [List.length_map] at hk
    have hmem : ids[k] ∈ ids := List.getElem_mem hk
    have hne : ids[k] ≠ endId := (List.nodup_append.mp h).2.2 _ (List.mem_cons_of_mem _ hmem) _
      (List.mem_singleton.mpr rfl)
    have hidx : (startId :: ids ++ [endId]).idxOf ids[k] = k + 1 :=
      idxOf_of_getElem? h (by simp [List.getElem?_append, hk])
    rw [List.getElem_map, renumber, if_neg (hstart (List.mem_append_left _ hmem)), if_neg hne, hidx]
    simp [nodeIds]
  · have hidx : (startId :: ids ++ [endId]).idxOf endId = ids.length + 1 :=
      idxOf_of_getElem? h (by simp)
    rw [renumber, if_neg (hstart (List.mem_append_right _ (List.mem_singleton.mpr rfl))),
      if_pos rfl, hidx, Nat.add_sub_cancel]

/-- The elements of a graph with the start node and the end node around those of a flow. -/
def withEnds (n : Nat) (fs : List Figure) : List Element :=
  startNode :: flowElements 0 fs ++ [endNode n]

theorem keptIds_withEnds (n : Nat) (fs : List Figure) :
    keptIds (withEnds n fs) = startId :: keptIds (flowElements 0 fs) ++ [endIdOf n] := by
  rw [withEnds, startNode, List.cons_append, Element.keptIds_node, Element.keptIds_append]
  rfl

theorem hiddenList_withEnds (n : Nat) (fs : List Figure) :
    hiddenList (withEnds n fs) = hiddenList (flowElements 0 fs) := by
  rw [withEnds, List.cons_append, hiddenList, Element.hiddenList_append]
  exact List.append_nil _

theorem renamedList_withEnds {rename : Id → Id} {gone : List Id} {fs : List Figure} {n n' : Nat}
    (h : Folds rename gone 0 (flowElements 0 fs)) (hstart : rename startId = startId)
    (hend : rename (endIdOf n) = endIdOf n') :
    renamedList rename (foldedList (withEnds n fs)) = withEnds n' (foldedFlow fs) := by
  rw [withEnds, List.cons_append, foldedList, Element.foldedList_append, renamedList,
    Element.renamedList_append, renamedList_flowElements fs h]
  show Element.node (rename startId) "Start" .circle none ::
    (_ ++ [Element.node (rename (endIdOf n)) "End" .circle none]) = _
  rw [hstart, hend]
  rfl

/-- The ids that are kept and those that are hidden are told apart, and none of them is that of the
start node or of the end node. -/
theorem keptIds_hidden_nodup (fs : List Figure) :
    (startId :: (keptIds (flowElements 0 fs) ++ hiddenList (flowElements 0 fs)) ++
      [endIdOf (flowSize fs)]).Nodup := by
  have hperm := Element.perm_idsList (flowElements 0 fs)
  rw [declaredIds_flowElements] at hperm
  exact ((hperm.cons startId).append_right _).nodup_iff.mpr (declared_nodup (flowSize fs))

/-- Renumbering after folding numbers what is left of a flow, and keeps both ends. -/
theorem folds_renumber (fs : List Figure) :
    let rename := renumber (keptIds (withEnds (flowSize fs) fs)) (endIdOf (flowSize fs))
    Folds rename (hiddenList (flowElements 0 fs)) 0 (flowElements 0 fs) ∧
      rename startId = startId ∧
      rename (endIdOf (flowSize fs)) = endIdOf (flowSize (foldedFlow fs)) := by
  have hall := keptIds_hidden_nodup fs
  have hsub : (startId :: keptIds (flowElements 0 fs) ++ [endIdOf (flowSize fs)]).Sublist
      (startId :: (keptIds (flowElements 0 fs) ++ hiddenList (flowElements 0 fs)) ++
        [endIdOf (flowSize fs)]) :=
    ((List.sublist_append_left _ _).cons_cons startId).append_right _
  obtain ⟨hstart, hnumbers, hend⟩ := renumber_eq (hall.sublist hsub)
  rw [length_keptIds_flow] at hend
  intro rename
  have hrename : rename = renumber (startId :: keptIds (flowElements 0 fs) ++
      [endIdOf (flowSize fs)]) (endIdOf (flowSize fs)) := by
    rw [← keptIds_withEnds]
  rw [hrename]
  refine ⟨⟨fun id hkept hhidden => ?_, fun _ => id, hnumbers⟩, hstart, hend⟩
  have hinner := (List.nodup_cons.mp (List.nodup_append.mp hall).1).2
  exact (List.nodup_append.mp hinner).2.2 id hkept id hhidden rfl

/-- The folded graph of a query has the elements and the edges of the graph without expansion, with
labels that are related as those of the figures are. -/
theorem folded_build {R : Option Text → Option Text → Prop} (hnone : R none none) (q : Query)
    (hlabels : LabelsFold R (flowAll (q.figures true))) :
    (build (some q) true).folded.elements = (build (some q) false).elements ∧
      (build (some q) true).folded.endId = (build (some q) false).endId ∧
      List.Forall₂ (fun w w' => w.ends = w'.ends ∧ R w.label w'.label)
        (build (some q) true).folded.edges (build (some q) false).edges := by
  obtain ⟨helements, -, hend⟩ := build_elements q true
  obtain ⟨helements', -, hend'⟩ := build_elements q false
  have hedges := edges_build q true
  have hedges' := edges_build q false
  rw [← q.foldedFlow_figures] at helements' hend' hedges'
  generalize q.figures true = fs at *
  obtain ⟨hfolds, hrename, hrenameEnd⟩ := folds_renumber fs
  have hall := keptIds_hidden_nodup fs
  have hstart : startId ∉ hiddenList (flowElements 0 fs) := fun h =>
    (List.nodup_cons.mp hall).1 (List.mem_append_left _ (List.mem_append_right _ h))
  have hlast : endIdOf (flowSize fs) ∉ hiddenList (flowElements 0 fs) := fun h =>
    (List.nodup_append.mp hall).2.2 _ (List.mem_cons_of_mem _ (List.mem_append_right _ h)) _
      (List.mem_singleton.mpr rfl) rfl
  have helements : (build (some q) true).elements = withEnds (flowSize fs) fs := helements
  simp only [folded, helements, hend, hedges, hiddenList_withEnds]
  refine ⟨?_, by rw [hrenameEnd, hend'], ?_⟩
  · rw [helements']
    exact renamedList_withEnds hfolds hrename hrenameEnd
  · have hflow := flowEdges_folded hnone fs hfolds hstart hnone hlabels
    have hexit := exitEdges_folded hnone hfolds hstart hlast hlabels
    rw [hrename] at hflow hexit
    rw [hrenameEnd] at hexit
    rw [hedges', List.forall₂_map_left_iff]
    refine (hflow.append hexit).imp fun w w' hw => ⟨hw.1.symm, hw.2⟩

theorem eq_of_parts {g g' : Graph} (helements : g.elements = g'.elements)
    (hedges : g.edges = g'.edges) (hend : g.endId = g'.endId) : g = g' := by
  cases g
  cases g'
  exact congr (congr (congrArg Graph.mk helements) hedges) hend

theorem folded_build_of_groupsEnd {q : Query} (h : GroupsEnd (flowAll (q.figures true))) :
    (build (some q) true).folded = build (some q) false := by
  obtain ⟨helements, hend, hedges⟩ := folded_build rfl q (labelsFold_eq h)
  exact eq_of_parts helements (Edge.eq_of_forall₂ hedges) hend

/-- With the groups folded, the graph that is drawn for a query with its groups expanded is the one
that is drawn without, but that edges can have lost their labels. They have not if something is drawn
at the end of every group. -/
theorem folded_build? {q : Option Query} {g g' : Graph} (h : build? q true = .ok g)
    (h' : build? q false = .ok g') :
    g.folded.elements = g'.elements ∧ g.folded.endId = g'.endId ∧
      List.Forall₂ (fun w w' => w.ends = w'.ends ∧ (w.label = w'.label ∨ w.label = none))
        g.folded.edges g'.edges ∧
      ((∀ body, .query (.group body) ∈ Query.drawnOption true q →
        flowDangles true (body.figures true) = false) → g.folded = g') := by
  obtain ⟨p, hp, hdrawn⟩ : ∃ p : Query, (∀ expand, build q expand = build (some p) expand) ∧
      Query.drawnOption true q = p.drawn true := by
    cases q with
    | none => exact ⟨.operation .pipe none none, fun _ => rfl, rfl⟩
    | some p => exact ⟨p, fun _ => rfl, rfl⟩
  rw [eq_build_of_build? h, eq_build_of_build? h', hp, hp, hdrawn]
  obtain ⟨helements, hend, hedges⟩ := folded_build (.inl rfl) p (labelsFold_or_none _)
  refine ⟨helements, hend, hedges, fun hgroups => ?_⟩
  have hends : GroupsEnd (flowAll (p.figures true)) := by
    intro f hf hgroup
    obtain ⟨body, hbody, hdangles⟩ := Query.exists_group hf hgroup
    rw [hdangles, hgroups body hbody]
  exact folded_build_of_groupsEnd hends

/-- Something is drawn in the group of `[(null)] | .`, and the edge from the array keeps its type. -/
theorem folded_build?_group :
    build? (some (.pipe (.array (some (.group .null))) .identity)) true =
        .ok (build (some (.pipe (.array (some (.group .null))) .identity)) true) ∧
      build? (some (.pipe (.array (some (.group .null))) .identity)) false =
        .ok (build (some (.pipe (.array (some (.group .null))) .identity)) false) ∧
      (build (some (.pipe (.array (some (.group .null))) .identity)) true).folded =
        build (some (.pipe (.array (some (.group .null))) .identity)) false := by
  have hexpanded : build? (some (.pipe (.array (some (.group .null))) .identity)) true =
      .ok (build (some (.pipe (.array (some (.group .null))) .identity)) true) := rfl
  have hcollapsed : build? (some (.pipe (.array (some (.group .null))) .identity)) false =
      .ok (build (some (.pipe (.array (some (.group .null))) .identity)) false) := rfl
  obtain ⟨-, -, -, hfolded⟩ := folded_build? hexpanded hcollapsed
  refine ⟨hexpanded, hcollapsed, hfolded fun body hbody => ?_⟩
  obtain rfl : body = .null := by
    simpa [Query.pipe, Query.drawnOption, Query.drawn] using hbody
  rfl

-- Nothing is drawn in the group if its body is a pipe without sides. The edge then loses its type.
example :
    (build (some (.pipe (.array (some (.group (.operation .pipe none none)))) .identity))
        true).folded.edges.map Edge.label = [none, none, none, none] ∧
      (build (some (.pipe (.array (some (.group (.operation .pipe none none)))) .identity))
        false).edges.map Edge.label = [none, none, some ("array" : Text), none] := by
  decide

/-- The graph of a query that was read, with its groups folded, is its graph without expansion. -/
theorem folded_build_of_parse {t : Text} {q : Query} (h : Query.parse t = .ok q) :
    (build (some q) true).folded = build (some q) false :=
  folded_build_of_groupsEnd (Query.groupsEnd_of_pipesComplete (Query.pipesComplete_of_parse h))

end Graph

end JqFlow
