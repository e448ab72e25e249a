import JqFlow.Proofs.Drawing.Scopes
import JqFlow.Proofs.Drawing.SpanningTree
import JqFlow.Proofs.Graph.Lookup

/-!
# The labels of edges

An edge that begins a branch has no label. Any other edge is labelled with the type of the values of
what its source is drawn for, as far as it can be told.

## Main definitions

- `Query.operandStarts`: the numbers at which the operands of an operator begin
- `Graph.BeginsBranch`: does an edge lead from a container into it, or from an operator to an
  operand?
- `Wiring`: a property that each kind of wire has

## Main statements

- `flowWires_forall`: what each kind of wire has, all wires of a flow have
- `Graph.labels_of_build?`: the labels of the edges of the graph of a query

## Design notes

The wires are sorted by where they lie, not by the builder's flag for branches: the kinds of wires
have different ends, so a label can be told from the ends alone.
-/

namespace JqFlow

open Builder (nodeId nodeId_injective)

/-! ### No element is inside itself -/

theorem declaredIds_cons (outer : List Id) (e : Element) (es : List Element) :
    declaredIds outer (e :: es) = declaredIds outer [e] ++ declaredIds outer es := by
  rw [← declaredIds_append, List.singleton_append]

mutual

/-- Where ids are not given twice, the ids around an element are others than its own. -/
theorem Element.notMem_outer (e : Element) (outer : List Id)
    (h : (outer ++ declaredIds outer [e]).Nodup) : ∀ x ∈ e.preorder outer, x.2.id ∉ x.1 := by
  intro x hx
  cases e with
  | node id label shape detail =>
    rw [List.mem_singleton.mp hx]
    exact fun hid => (List.nodup_append.mp h).2.2 id hid id List.mem_cons_self rfl
  | container id label children detail =>
    rw [declaredIds_container] at h
    rcases List.mem_cons.mp hx with rfl | hx
    · exact fun hid => (List.nodup_append.mp h).2.2 id hid id List.mem_cons_self rfl
    · -- Inside the container its id is one of those around.
      rw [← List.singleton_append, ← List.append_assoc] at h
      exact Element.notMem_outerList children (outer ++ [id]) h x hx

theorem Element.notMem_outerList (es : List Element) (outer : List Id)
    (h : (outer ++ declaredIds outer es).Nodup) :
    ∀ x ∈ Element.preorderList outer es, x.2.id ∉ x.1 := by
  intro x hx
  cases es with
  | nil => exact absurd hx List.not_mem_nil
  | cons e es =>
    rw [declaredIds_cons] at h
    rcases List.mem_append.mp hx with hx | hx
    · refine Element.notMem_outer e outer (h.sublist ?_) x hx
      exact (List.sublist_append_left _ _).append_left outer
    · refine Element.notMem_outerList es outer (h.sublist ?_) x hx
      exact (List.sublist_append_right _ _).append_left outer

end

namespace Graph

variable {g : Graph}

theorem declaredIds_elements (g : Graph) : declaredIds [] g.elements = g.ids := by
  rw [ids, nodes, walk_eq_preorder, List.map_map]
  rfl

/-- An element stands in one scope only. -/
theorem hasIn_unique (hg : g.ids.Nodup) {outer outer' : List Id} {id : Id}
    (h : HasIn g.walk outer id) (h' : HasIn g.walk outer' id) : outer = outer' := by
  obtain ⟨e, he, rfl⟩ := h
  obtain ⟨e', he', hid⟩ := h'
  exact congrArg Prod.fst (eq_of_id_eq hg he he' hid.symm)

/-- Of two elements in the same scope none is inside the other. -/
theorem not_inside_of_hasIn (hg : g.ids.Nodup) {outer : List Id} {source target : Id}
    (hsource : HasIn g.walk outer source) (htarget : HasIn g.walk outer target) :
    ¬∃ above, HasIn g.walk (above ++ [source]) target := by
  rintro ⟨above, hinside⟩
  obtain ⟨e, he, rfl⟩ := hsource
  have hscope : e.id ∈ outer := by
    rw [hasIn_unique hg htarget hinside]
    exact List.mem_append_right _ List.mem_cons_self
  rw [walk_eq_preorder] at he
  refine Element.notMem_outerList g.elements [] ?_ _ he hscope
  rwa [List.nil_append, declaredIds_elements]

end Graph

/-! ### Where operands begin -/

/-- The first numbers of consecutive groups of the given sizes. -/
def starts (n : Nat) : List Nat → List Nat
  | [] => []
  | k :: ks => n :: starts (n + k) ks

namespace Query

/-- The operands of an operator that are there. -/
def operands : Query → List Query
  | operation _ l r => l.toList ++ r.toList
  | unary _ operand => [operand]
  | _ => []

/-- The numbers of the elements drawn first for the operands of a query with number `k`. -/
def operandStarts (expand : Bool) (k : Nat) (q : Query) : List Nat :=
  starts (k + 1) (q.operands.map fun operand => (operand.drawn expand).length)

end Query

/-- The numbers at which the operands of a figure with number `k` begin. -/
def Figure.operandStarts (k : Nat) : Figure → List Nat
  | fork _ _ operands => starts (k + 1) (operands.map flowSize)
  | _ => []

theorem Query.map_flowSize_branchOf (expand : Bool) (q : Option Query) :
    (branchOf expand q).map flowSize = q.toList.map fun q => (q.drawn expand).length := by
  cases q with
  | none => rfl
  | some q => rw [branchOf, List.map_singleton, ← length_drawn, Option.toList, List.map_singleton]

theorem Query.operandStarts_figure (expand : Bool) (q : Query) (k : Nat) :
    (q.figure expand).operandStarts k = q.operandStarts expand k := by
  cases q with
  | operation op l r =>
    rw [figure, Figure.operandStarts, List.map_append, map_flowSize_branchOf,
      map_flowSize_branchOf, ← List.map_append, operandStarts, operands]
  | unary op operand =>
    rw [figure, Figure.operandStarts, List.map_singleton, ← length_drawn, operandStarts, operands,
      List.map_singleton]
  | group body => cases expand <;> rfl
  | _ => rfl

theorem starts_range {flows : List (List Figure)} (h : SolidBranches flows) (n : Nat) :
    ∀ m ∈ starts n (flows.map flowSize), n ≤ m ∧ m < n + branchSize flows := by
  induction flows generalizing n with
  | nil => exact fun m hm => absurd hm List.not_mem_nil
  | cons flow flows ih =>
    obtain ⟨hne, -, hrest⟩ := h
    have hlast := lastNumber_lt flow n hne
    intro m hm
    rw [branchSize]
    rcases List.mem_cons.mp hm with rfl | hm
    · omega
    · have := ih hrest (n + flowSize flow) m hm
      omega

/-- The operands of a figure begin inside it. -/
theorem Figure.operandStarts_range {f : Figure} (h : f.Solid) {k m : Nat}
    (hm : m ∈ f.operandStarts k) : k < m ∧ m < k + f.size := by
  cases f with
  | fork _ _ operands =>
    have := starts_range h (k + 1) m hm
    rw [Figure.size]
    omega
  | _ => exact absurd hm List.not_mem_nil

mutual

theorem Figure.solid_of_mem_all (f : Figure) (hf : f.Solid) : ∀ g ∈ f.all, g.Solid := by
  intro g hg
  cases f with
  | mark => exact List.mem_singleton.mp hg ▸ hf
  | fork _ _ operands =>
    rcases List.mem_cons.mp hg with rfl | hg
    · exact hf
    · exact solid_of_mem_branchAll operands hf g hg
  | box _ _ _ branches =>
    rcases List.mem_cons.mp hg with rfl | hg
    · exact hf
    · exact solid_of_mem_branchAll branches hf g hg

/-- All figures in a flow without empty flows are without empty flows. -/
theorem solid_of_mem_flowAll (fs : List Figure) (hfs : SolidFlow fs) :
    ∀ g ∈ flowAll fs, g.Solid := by
  intro g hg
  cases fs with
  | nil => exact absurd hg List.not_mem_nil
  | cons f fs =>
    rcases List.mem_append.mp hg with hg | hg
    · exact f.solid_of_mem_all hfs.1 g hg
    · exact solid_of_mem_flowAll fs hfs.2 g hg

theorem solid_of_mem_branchAll (flows : List (List Figure)) (hflows : SolidBranches flows) :
    ∀ g ∈ branchAll flows, g.Solid := by
  intro g hg
  match flows, hflows with
  | [], _ => exact absurd hg List.not_mem_nil
  | flow :: flows, hflows =>
    rcases List.mem_append.mp hg with hg | hg
    · exact solid_of_mem_flowAll flow hflows.2.1 g hg
    · exact solid_of_mem_branchAll flows hflows.2.2 g hg

end

theorem operandStarts_within {fs : List Figure} (hfs : SolidFlow fs) {f : Figure} {k m : Nat}
    (hf : (flowAll fs)[k]? = some f) (hm : m ∈ f.operandStarts k) : k < m ∧ m < k + f.size :=
  Figure.operandStarts_range (solid_of_mem_flowAll fs hfs f (List.mem_of_getElem? hf)) hm

/-! ### The kinds of wires -/

/-- A flow has the type of the figure with its last number. -/
theorem exists_last (fs : List Figure) (n : Nat) (h : fs ≠ []) :
    ∃ f, (f, lastNumber n fs) ∈ (flowAll fs).zipIdx n ∧ f.type = lastType fs := by
  induction fs generalizing n with
  | nil => exact absurd rfl h
  | cons f fs ih =>
    rw [zipIdx_flowAll_cons]
    cases fs with
    | nil =>
      refine ⟨f, List.mem_append_left _ ?_, rfl⟩
      cases f <;> exact List.mem_cons_self
    | cons g gs =>
      obtain ⟨last, hlast, htype⟩ := ih (n + f.size) (by simp)
      exact ⟨last, List.mem_append_right _ hlast, htype⟩

/-- A property that each kind of wire has: the wires from a figure to the next one and from the last
figure of an operand to its operator, which stay in a scope, those from an operator to an operand,
and those from a container into it. -/
structure Wiring (walk : List (List Id × Element)) (all : List (Figure × Nat))
    (P : Edge → Prop) : Prop where
  onward : ∀ {f k outer}, (f, k) ∈ all → HasIn walk outer (nodeId k) →
    HasIn walk outer (nodeId (k + f.size)) → P ⟨nodeId k, nodeId (k + f.size), f.typeName⟩
  back : ∀ {f k operator outer}, (f, k) ∈ all → operator < k → HasIn walk outer (nodeId k) →
    HasIn walk outer (nodeId operator) → P ⟨nodeId k, nodeId operator, f.typeName⟩
  operand : ∀ {f k m}, (f, k) ∈ all → m ∈ f.operandStarts k → P ⟨nodeId k, nodeId m, none⟩
  inside : ∀ {k m outer}, HasIn walk (outer ++ [nodeId k]) (nodeId m) → P ⟨nodeId k, nodeId m, none⟩

section Wiring

variable {walk : List (List Id × Element)} {all : List (Figure × Nat)} {P : Edge → Prop}

theorem flowElements_hasIn {fs : List Figure} {outer : List Id} {n : Nat} (h : fs ≠ [])
    (hin : ∀ x ∈ Element.preorderList outer (flowElements n fs), x ∈ walk) :
    HasIn walk outer (nodeId n) := by
  cases fs with
  | nil => exact absurd rfl h
  | cons f fs => exact f.hasIn (mem_of_append hin).1

mutual

theorem Figure.wires_forall (hP : Wiring walk all P) (f : Figure) (hf : f.Solid) {outer : List Id}
    {source : Id} {label : Option Text} {n : Nat}
    (hin : ∀ x ∈ Element.preorderList outer (f.elements n), x ∈ walk)
    (hall : ∀ x ∈ f.all.zipIdx n, x ∈ all) (hentry : P ⟨source, nodeId n, label⟩) :
    ∀ w ∈ f.wires source label n, P w := by
  intro w hw
  have hself := f.hasIn hin
  cases f with
  | mark => exact List.mem_singleton.mp hw ▸ hentry
  | fork label type operands =>
    rw [Figure.all, List.zipIdx_cons] at hall
    rcases List.mem_cons.mp hw with rfl | hw
    · exact hentry
    · refine operandWires_forall hP operands hf (Nat.lt_succ_self n) hself
        (fun x hx => hin x (List.mem_cons_of_mem _ hx))
        (fun x hx => hall x (List.mem_cons_of_mem _ hx)) ?_ w hw
      intro m hm
      exact hP.operand (hall _ List.mem_cons_self) hm
  | box label detail type branches =>
    rw [Figure.all, List.zipIdx_cons] at hall
    rcases List.mem_cons.mp hw with rfl | hw
    · exact hentry
    · have hinside : ∀ x ∈ Element.preorderList (outer ++ [nodeId n])
          (branchElements (n + 1) branches), x ∈ walk := by
        intro x hx
        refine hin x ?_
        rw [Figure.elements, Element.preorderList, Element.preorderList, List.append_nil]
        exact List.mem_cons_of_mem _ hx
      exact branchWires_forall hP branches hf hinside
        (fun x hx => hall x (List.mem_cons_of_mem _ hx)) w hw

/-- What each kind of wire has, the wires of a flow have if the one that enters it has it. -/
theorem flowWires_forall (hP : Wiring walk all P) (fs : List Figure) (hfs : SolidFlow fs)
    {outer : List Id} {source : Id} {label : Option Text} {n : Nat}
    (hin : ∀ x ∈ Element.preorderList outer (flowElements n fs), x ∈ walk)
    (hall : ∀ x ∈ (flowAll fs).zipIdx n, x ∈ all)
    (hentry : fs ≠ [] → P ⟨source, nodeId n, label⟩) :
    ∀ w ∈ flowWires source label n fs, P w := by
  intro w hw
  cases fs with
  | nil => exact absurd hw List.not_mem_nil
  | cons f fs =>
    obtain ⟨hfirst, hrest⟩ := mem_of_append hin
    rw [zipIdx_flowAll_cons] at hall
    rcases List.mem_append.mp hw with hw | hw
    · exact f.wires_forall hP hfs.1 hfirst (fun x hx => hall x (List.mem_append_left _ hx))
        (hentry (by simp)) w hw
    · refine flowWires_forall hP fs hfs.2 hrest (fun x hx => hall x (List.mem_append_right _ hx))
        ?_ w hw
      intro hne
      have hmem : (f, n) ∈ f.all.zipIdx n := by cases f <;> exact List.mem_cons_self
      exact hP.onward (hall _ (List.mem_append_left _ hmem)) (f.hasIn hfirst)
        (flowElements_hasIn hne hrest)

theorem operandWires_forall (hP : Wiring walk all P) (flows : List (List Figure))
    (hflows : SolidBranches flows) {outer : List Id} {operator n : Nat} (hlt : operator < n)
    (hoperator : HasIn walk outer (nodeId operator))
    (hin : ∀ x ∈ Element.preorderList outer (branchElements n flows), x ∈ walk)
    (hall : ∀ x ∈ (branchAll flows).zipIdx n, x ∈ all)
    (hstarts : ∀ m ∈ starts n (flows.map flowSize), P ⟨nodeId operator, nodeId m, none⟩) :
    ∀ w ∈ operandWires (nodeId operator) n flows, P w := by
  intro w hw
  match flows, hflows with
  | [], _ => exact absurd hw List.not_mem_nil
  | flow :: flows, hflows =>
    obtain ⟨hne, hflow, hflows⟩ := hflows
    obtain ⟨hfirst, hrest⟩ := mem_of_append hin
    rw [zipIdx_branchAll_cons] at hall
    have hallFlow := fun x hx => hall x (List.mem_append_left _ hx)
    rcases List.mem_append.mp hw with hw | hw
    · exact flowWires_forall hP flow hflow hfirst hallFlow
        (fun _ => hstarts n List.mem_cons_self) w hw
    · have hlast := lastNumber_lt flow n hne
      rcases List.mem_cons.mp hw with rfl | hw
      · -- The way back from the last figure of the operand.
        obtain ⟨f, hf, htype⟩ := exists_last flow n hne
        have hend := flowEnd_hasIn flow hfirst hoperator
        rw [flowEnd_eq flow _ n hne] at hend
        rw [← htype]
        exact hP.back (hallFlow _ hf) (by omega) hend hoperator
      · exact operandWires_forall hP flows hflows (by omega) hoperator hrest
          (fun x hx => hall x (List.mem_append_right _ hx))
          (fun m hm => hstarts m (List.mem_cons_of_mem _ hm)) w hw

theorem branchWires_forall (hP : Wiring walk all P) (flows : List (List Figure))
    (hflows : SolidBranches flows) {outer : List Id} {box n : Nat}
    (hin : ∀ x ∈ Element.preorderList (outer ++ [nodeId box]) (branchElements n flows), x ∈ walk)
    (hall : ∀ x ∈ (branchAll flows).zipIdx n, x ∈ all) :
    ∀ w ∈ branchWires (nodeId box) n flows, P w := by
  intro w hw
  match flows, hflows with
  | [], _ => exact absurd hw List.not_mem_nil
  | flow :: flows, hflows =>
    obtain ⟨hne, hflow, hflows⟩ := hflows
    obtain ⟨hfirst, hrest⟩ := mem_of_append hin
    rw [zipIdx_branchAll_cons] at hall
    rcases List.mem_append.mp hw with hw | hw
    · exact flowWires_forall hP flow hflow hfirst
        (fun x hx => hall x (List.mem_append_left _ hx))
        (fun _ => hP.inside (flowElements_hasIn hne hfirst)) w hw
    · exact branchWires_forall hP flows hflows hrest
        (fun x hx => hall x (List.mem_append_right _ hx)) w hw

end

end Wiring

/-! ### The graph of a query -/

namespace Graph

/-- Does an edge lead from the container around its target, or from an operator to the element drawn
first for one of its operands? The elements are drawn for the given parts. -/
def BeginsBranch (g : Graph) (expand : Bool) (parts : List Part) (w : Edge) : Prop :=
  (∃ outer, HasIn g.walk (outer ++ [w.source]) w.target) ∨
    ∃ k q, parts[k]? = some (.query q) ∧ w.source = nodeId k ∧
      ∃ m ∈ q.operandStarts expand k, w.target = nodeId m

/-- The label that an edge has if it begins no branch: none at the start node, else the type of the
values of the part that its source is drawn for. -/
def HasTypeOfSource (parts : List Part) (w : Edge) : Prop :=
  (w.source = startId ∧ w.label = none) ∨
    ∃ k part, parts[k]? = some part ∧ w.source = nodeId k ∧
      w.label = part.outputType?.map ValueType.name

/-- Has an edge no label if it begins a branch, and else the label of its source? -/
def IsLabelled (g : Graph) (expand : Bool) (parts : List Part) (w : Edge) : Prop :=
  (g.BeginsBranch expand parts w → w.label = none) ∧
    (¬g.BeginsBranch expand parts w → HasTypeOfSource parts w)

section Labels

variable {q : Query} {expand : Bool} {g : Graph}

/-- An edge between elements of one scope begins no branch, unless it leads to an operand of the
figure that its source is drawn for. -/
theorem not_beginsBranch (hg : g.ids.Nodup) {outer : List Id} {k : Nat} {target : Id}
    {label : Option Text} (hsource : HasIn g.walk outer (nodeId k))
    (htarget : HasIn g.walk outer target)
    (hno : ∀ f m, (flowAll (q.figures expand))[k]? = some f → m ∈ f.operandStarts k →
      target ≠ nodeId m) :
    ¬g.BeginsBranch expand (q.drawn expand) ⟨nodeId k, target, label⟩ := by
  rintro (hinside | ⟨k', part, hpart, hk, m, hm, hoperand⟩)
  · exact not_inside_of_hasIn hg hsource htarget hinside
  · obtain rfl : k = k' := nodeId_injective hk
    obtain ⟨f, hf, hfigure⟩ := Query.isDrawnFor_of_getElem? hpart
    obtain rfl : f = part.figure expand := hfigure
    rw [← Query.operandStarts_figure] at hm
    exact hno _ m hf hm hoperand

/-- A wire that begins no branch is labelled with the type of the figure at its source. -/
theorem typed_of_not_beginsBranch {f : Figure} {k : Nat} {target : Id}
    (hf : (f, k) ∈ (flowAll (q.figures expand)).zipIdx)
    (hbegins : ¬g.BeginsBranch expand (q.drawn expand) ⟨nodeId k, target, f.typeName⟩) :
    g.IsLabelled expand (q.drawn expand) ⟨nodeId k, target, f.typeName⟩ := by
  obtain ⟨part, hpart, hdrawn⟩ := Query.exists_part (List.mem_zipIdx_iff_getElem?.mp hf)
  refine ⟨fun h => absurd h hbegins, fun _ => .inr ⟨k, part, hpart, rfl, ?_⟩⟩
  rw [← hdrawn.type_eq]
  rfl

/-- Every kind of wire is labelled as it should be. -/
theorem wiring_isLabelled (hg : g.ids.Nodup) (h : Drawable (q.figures expand)) :
    Wiring g.walk ((flowAll (q.figures expand)).zipIdx)
      (g.IsLabelled expand (q.drawn expand)) where
  onward := by
    intro f k outer hf hsource htarget
    refine typed_of_not_beginsBranch hf (not_beginsBranch hg hsource htarget ?_)
    -- The operands of a figure begin before the figure after it.
    intro f' m hf' hm heq
    obtain rfl : f' = f := Option.some.inj (hf'.symm.trans (List.mem_zipIdx_iff_getElem?.mp hf))
    have hrange := operandStarts_within h.2 hf' hm
    have := nodeId_injective heq
    omega
  back := by
    intro f k operator outer hf hlt hsource htarget
    refine typed_of_not_beginsBranch hf (not_beginsBranch hg hsource htarget ?_)
    -- The operands of a figure begin after it, an operator stands before its operands.
    intro f' m hf' hm heq
    have hrange := operandStarts_within h.2 hf' hm
    have := nodeId_injective heq
    omega
  operand := by
    intro f k m hf hm
    obtain ⟨part, hpart, hdrawn⟩ := Query.exists_part (List.mem_zipIdx_iff_getElem?.mp hf)
    refine ⟨fun _ => rfl, fun hbegins => absurd (.inr ?_) hbegins⟩
    cases part with
    | key key =>
      obtain ⟨flow, rfl⟩ := hdrawn
      exact absurd hm List.not_mem_nil
    | query part =>
      obtain rfl : f = part.figure expand := hdrawn
      rw [Query.operandStarts_figure] at hm
      exact ⟨k, part, hpart, rfl, m, hm, rfl⟩
  inside := by
    intro k m outer hinside
    exact ⟨fun _ => rfl, fun hbegins => absurd (.inl ⟨outer, hinside⟩) hbegins⟩

/-- In the graph of a query whose pipes have both sides, an edge that begins a branch has no label.
Any other edge has the type of the values of what its source is drawn for, where it can be told. -/
theorem labels_of_build? (hq : q.pipesComplete) (h : build? (some q) expand = .ok g) :
    ∀ w ∈ g.edges,
      (g.BeginsBranch expand (q.drawn expand) w → w.label = none) ∧
        (¬g.BeginsBranch expand (q.drawn expand) w → HasTypeOfSource (q.drawn expand) w) := by
  have hdrawable := Query.figures_drawable expand q hq
  obtain rfl := eq_build_of_build? h
  have hnodup : (build (some q) expand).ids.Nodup :=
    (build_elements q expand).2.1 ▸ declared_nodup _
  obtain ⟨hstart, hflow, hend⟩ := build_top q expand
  intro w hw
  show (build (some q) expand).IsLabelled expand (q.drawn expand) w
  rw [build_edges hdrawable] at hw
  rcases List.mem_append.mp hw with hw | hw
  · refine flowWires_forall (wiring_isLabelled hnodup hdrawable) _ hdrawable.2 hflow
      (fun x hx => hx) ?_ w hw
    intro _
    exact ⟨fun _ => rfl, fun _ => .inl ⟨rfl, rfl⟩⟩
  · rw [List.mem_singleton.mp hw]
    obtain ⟨f, hf, htype⟩ := exists_last (q.figures expand) 0 hdrawable.1
    have hlast := flowEnd_hasIn _ hflow hstart
    rw [flowEnd_eq _ _ _ hdrawable.1] at hlast
    rw [← htype]
    -- The end node is no operand: its id is made in another way.
    refine typed_of_not_beginsBranch hf (not_beginsBranch hnodup hlast hend ?_)
    intro _ m _ _ heq
    exact nodeId_ne_endIdOf m _ heq.symm

end Labels

/-- In the graph of `{x: 1} | . + "a"` the edge from `+` to its second operand has no label. -/
theorem labels_of_build?_operand :
    (Query.pipe (.object [⟨"x", .number "1", none⟩])
      (.binary .add .identity (.string "a"))).pipesComplete ∧
    build? (some (.pipe (.object [⟨"x", .number "1", none⟩])
        (.binary .add .identity (.string "a")))) true =
      .ok (build (some (.pipe (.object [⟨"x", .number "1", none⟩])
        (.binary .add .identity (.string "a")))) true) ∧
    ∀ w ∈ (build (some (.pipe (.object [⟨"x", .number "1", none⟩])
        (.binary .add .identity (.string "a")))) true).edges,
      w.ends = (nodeId 3, nodeId 5) → w.label = none := by
  have hcomplete : (Query.pipe (.object [⟨"x", .number "1", none⟩])
      (.binary .add .identity (.string "a"))).pipesComplete := by decide
  have hbuild : build? (some (.pipe (.object [⟨"x", .number "1", none⟩])
        (.binary .add .identity (.string "a")))) true =
      .ok (build (some (.pipe (.object [⟨"x", .number "1", none⟩])
        (.binary .add .identity (.string "a")))) true) := rfl
  refine ⟨hcomplete, hbuild, fun w hw hends => ?_⟩
  obtain ⟨hsource, htarget⟩ := Prod.mk.inj hends
  refine (labels_of_build? hcomplete hbuild w hw).1 (.inr ⟨3, _, rfl, hsource, 5, ?_, htarget⟩)
  decide

end Graph
end JqFlow
