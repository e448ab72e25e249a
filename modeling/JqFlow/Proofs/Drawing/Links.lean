import JqFlow.Proofs.Drawing.Steps

/-!
# Which elements a drawing connects

Whatever is drawn, also where flows are empty, the builder connects no other pairs than these: the
figures of a flow one after another, an operator or a container with the first figure of each of its
branches, and the last figure of an operand with its operator. A branch in which nothing is drawn
ends where it began.

## Main definitions

- `flowEnd`: the element on which a flow ends
- `Figure.links`, `flowLinks`, `operandLinks`, `branchLinks`: the pairs that are connected
- `Builder.Linked`: what a drawing adds to the edges of a builder

## Main statements

- `drawFlow_linked`: drawing a flow adds edges between its links only
- `flowLinks_within`: the links of a flow stay among its source and its own elements
-/

namespace JqFlow

open Builder (nodeId)

/-- The element on which a flow ends, if it is entered from `source` and numbered from `n`. -/
def flowEnd (source : Id) (n : Nat) : List Figure → Id
  | [] => source
  | f :: fs => flowEnd (nodeId n) (n + f.size) fs

mutual

/-- The pairs that are connected for a figure that is numbered from `n` and entered from
`source`. -/
def Figure.links (source : Id) (n : Nat) : Figure → List (Id × Id)
  | .mark .. => [(source, nodeId n)]
  | .fork _ _ operands => (source, nodeId n) :: operandLinks (nodeId n) (n + 1) operands
  | .box _ _ _ branches => (source, nodeId n) :: branchLinks (nodeId n) (n + 1) branches

/-- The pairs that are connected for a flow. -/
def flowLinks (source : Id) (n : Nat) : List Figure → List (Id × Id)
  | [] => []
  | f :: fs => f.links source n ++ flowLinks (nodeId n) (n + f.size) fs

/-- The pairs that are connected for operands, out of their operator and back to it. -/
def operandLinks (id : Id) (n : Nat) : List (List Figure) → List (Id × Id)
  | [] => []
  | flow :: flows =>
    flowLinks id n flow ++ (flowEnd id n flow, id) :: operandLinks id (n + flowSize flow) flows

/-- The pairs that are connected for branches, out of their container. -/
def branchLinks (id : Id) (n : Nat) : List (List Figure) → List (Id × Id)
  | [] => []
  | flow :: flows => flowLinks id n flow ++ branchLinks id (n + flowSize flow) flows

end

namespace Builder

/-- `after` has all edges of `before`, and others between the given pairs only. If these have
labels, then the names of types. -/
def Linked (links : List (Id × Id)) (before after : Builder) : Prop :=
  ∃ new, after.edges = before.edges ++ new ∧
    ∀ w ∈ new, w.ends ∈ links ∧ ∃ type : Option ValueType, w.label = type.map ValueType.name

namespace Linked

variable {links links' : List (Id × Id)} {a b c : Builder}

theorem of_edges_eq (h : b.edges = a.edges) : Linked [] a b :=
  ⟨[], by rw [h, List.append_nil], fun _ hw => absurd hw List.not_mem_nil⟩

theorem trans (h : Linked links a b) (h' : Linked links' b c) : Linked (links ++ links') a c := by
  obtain ⟨new, hedges, hnew⟩ := h
  obtain ⟨new', hedges', hnew'⟩ := h'
  refine ⟨new ++ new', by rw [hedges', hedges, List.append_assoc], ?_⟩
  intro w hw
  rcases List.mem_append.mp hw with hw | hw
  · obtain ⟨hends, htype⟩ := hnew w hw
    exact ⟨List.mem_append_left _ hends, htype⟩
  · obtain ⟨hends, htype⟩ := hnew' w hw
    exact ⟨List.mem_append_right _ hends, htype⟩

/-- Steps that add no edges may come before and after. -/
theorem congr (h : Linked links b c) {b' c' : Builder} (hb : b'.edges = b.edges)
    (hc : c'.edges = c.edges) : Linked links b' c' := by
  obtain ⟨new, hedges, hnew⟩ := h
  exact ⟨new, by rw [hc, hedges, hb], hnew⟩

end Linked

theorem connect_linked (source target : Id) (b : Builder) :
    Linked [(source, target)] b (b.connect source target) := by
  simp only [connect]
  split
  · exact ⟨[], by simp, fun _ hw => absurd hw List.not_mem_nil⟩
  · refine ⟨_, rfl, ?_⟩
    intro w hw
    rw [List.mem_singleton.mp hw]
    refine ⟨List.mem_singleton.mpr rfl, ?_⟩
    by_cases hbranching : b.branching = true
    · exact ⟨none, by simp [hbranching]⟩
    · exact ⟨b.types.lookup source, by simp [hbranching]⟩

theorem moveTo_linked (id : Id) (b : Builder) : Linked [(b.cursor, id)] b (b.moveTo id) :=
  (connect_linked b.cursor id b).congr rfl rfl

/-- The next element is entered from the cursor. -/
theorem enter_linked (type : Option ValueType) (b : Builder) :
    Linked [(b.cursor, nodeId b.counter)] b
      ((b.takeNumber type).moveTo (nodeId b.counter)) := by
  obtain ⟨-, hcursor, hedges, -, -⟩ := takeNumber_frame type b
  have hmove := moveTo_linked (nodeId b.counter) (b.takeNumber type)
  rw [hcursor] at hmove
  exact hmove.congr hedges.symm rfl

theorem drawMark_linked (label : Text) (type : Option ValueType) (b : Builder) :
    Linked [(b.cursor, nodeId b.counter)] b (b.drawMark label type) ∧
      (b.drawMark label type).cursor = nodeId b.counter := by
  obtain ⟨scopes, h⟩ := drawMark_eq label type b
  rw [h]
  exact ⟨(enter_linked type b).congr rfl rfl, rfl⟩

theorem drawOpen_linked (label : Text) (detail : Option Text) (type : Option ValueType)
    (b : Builder) :
    Linked [(b.cursor, nodeId b.counter)] b (b.drawOpen label detail type) :=
  (enter_linked type b).congr rfl rfl

/-- A container is closed without an edge, and the cursor is put at it. -/
theorem close_linked {a b : Builder} {links : List (Id × Id)} (h : Linked links a b) {c : Opened}
    {inside : List Element} {outer : List Scope} (hscopes : b.scopes = ⟨some c, inside⟩ :: outer) :
    Linked links a b.close ∧ b.close.cursor = c.id := by
  obtain ⟨scopes, hclose⟩ := close_eq hscopes
  rw [hclose]
  exact ⟨h.congr rfl rfl, rfl⟩

end Builder

open Builder (Linked)

mutual

/-- Drawing a figure connects its links and leaves the cursor at it. -/
theorem Figure.draw_linked (f : Figure) (b : Builder) :
    Linked (f.links b.cursor b.counter) b (f.draw b) ∧ (f.draw b).cursor = nodeId b.counter := by
  cases f with
  | mark label type => exact Builder.drawMark_linked label type b
  | fork label type operands =>
    obtain ⟨hmark, hcursor⟩ := Builder.drawMark_linked label type b
    obtain ⟨hoperands, hend⟩ := drawOperands_linked operands _ hcursor
    rw [(Builder.drawMark_placed label type b).counter] at hoperands
    exact ⟨hmark.trans hoperands, hend⟩
  | box label detail type branches =>
    have hopen := Builder.drawOpen_linked label detail type b
    have hbranches := drawBranches_linked branches (nodeId b.counter) (b.drawOpen label detail type)
    rw [Builder.drawOpen_counter] at hbranches
    have hscopes := (drawBranches_placed branches (nodeId b.counter) _).scopes _ _ _
      (Builder.drawOpen_scopes label detail type b)
    exact Builder.close_linked (hopen.trans hbranches) hscopes

/-- Drawing a flow connects its links and leaves the cursor where it ends. -/
theorem drawFlow_linked (fs : List Figure) (b : Builder) :
    Linked (flowLinks b.cursor b.counter fs) b (drawFlow fs b) ∧
      (drawFlow fs b).cursor = flowEnd b.cursor b.counter fs := by
  cases fs with
  | nil => exact ⟨.of_edges_eq rfl, rfl⟩
  | cons f fs =>
    obtain ⟨hfirst, hcursor⟩ := Figure.draw_linked f b
    obtain ⟨hrest, hend⟩ := drawFlow_linked fs (f.draw b)
    rw [hcursor, (Figure.draw_placed f b).counter] at hrest hend
    exact ⟨hfirst.trans hrest, hend⟩

/-- Drawing operands connects their links and leaves the cursor at the operator. -/
theorem drawOperands_linked (flows : List (List Figure)) (b : Builder) {id : Id}
    (h : b.cursor = id) :
    Linked (operandLinks id b.counter flows) b (drawOperands id flows b) ∧
      (drawOperands id flows b).cursor = id := by
  cases flows with
  | nil => exact ⟨.of_edges_eq rfl, h⟩
  | cons flow flows =>
    obtain ⟨hflow, hend⟩ := drawFlow_linked flow (b.startBranch id)
    -- The operand ends where its flow does, and from there the operator is entered again.
    have hback := Builder.moveTo_linked id (drawFlow flow (b.startBranch id))
    have hcounter : ((drawFlow flow (b.startBranch id)).moveTo id).counter =
        b.counter + flowSize flow :=
      ((drawFlow_placed flow (b.startBranch id)).moveTo id).counter
    have hcursor : ((drawFlow flow (b.startBranch id)).moveTo id).cursor = id := rfl
    obtain ⟨hrest, hid⟩ := drawOperands_linked flows _ hcursor
    rw [hend] at hback
    rw [hcounter] at hrest
    have hall := (hflow.trans hback).trans hrest
    rw [List.append_assoc] at hall
    exact ⟨hall.congr rfl rfl, hid⟩

/-- Drawing branches connects their links. -/
theorem drawBranches_linked (flows : List (List Figure)) (id : Id) (b : Builder) :
    Linked (branchLinks id b.counter flows) b (drawBranches id flows b) := by
  cases flows with
  | nil => exact .of_edges_eq rfl
  | cons flow flows =>
    obtain ⟨hflow, -⟩ := drawFlow_linked flow (b.startBranch id)
    have hrest := drawBranches_linked flows id (drawFlow flow (b.startBranch id))
    rw [(drawFlow_placed flow (b.startBranch id)).counter] at hrest
    exact (hflow.trans hrest).congr rfl rfl

end

/-! ### The links of a flow stay among its elements -/

theorem mem_nodeIds {n k : Nat} {id : Id} :
    id ∈ nodeIds n k ↔ ∃ m, n ≤ m ∧ m < n + k ∧ nodeId m = id := by
  simp only [nodeIds, List.mem_map, List.mem_range'_1, and_assoc]

theorem nodeId_mem_nodeIds {m n k : Nat} : nodeId m ∈ nodeIds n k ↔ n ≤ m ∧ m < n + k := by
  rw [mem_nodeIds]
  constructor
  · rintro ⟨m', hn, hk, h⟩
    rw [← Builder.nodeId_injective h]
    exact ⟨hn, hk⟩
  · rintro ⟨hn, hk⟩
    exact ⟨m, hn, hk, rfl⟩

/-- Ids with lower numbers are others. -/
theorem notMem_nodeIds_of_le {m n k l : Nat} {id : Id} (h : id ∈ nodeIds m k) (hle : m + k ≤ n) :
    id ∉ nodeIds n l := by
  obtain ⟨i, -, hi, rfl⟩ := mem_nodeIds.mp h
  rw [nodeId_mem_nodeIds]
  omega

theorem flowEnd_mem (source : Id) (fs : List Figure) (n : Nat) :
    flowEnd source n fs ∈ source :: nodeIds n (flowSize fs) := by
  induction fs generalizing source n with
  | nil => exact List.mem_cons_self
  | cons f fs ih =>
    have hpos := f.size_pos
    rw [flowEnd, flowSize, nodeIds_add]
    -- The rest is entered from the first figure, which is one of the elements.
    rcases List.mem_cons.mp (ih (nodeId n) (n + f.size)) with h | h
    · rw [h]
      refine List.mem_cons_of_mem _ (List.mem_append_left _ ?_)
      rw [nodeId_mem_nodeIds]
      omega
    · exact List.mem_cons_of_mem _ (List.mem_append_right _ h)

/-- Does a link lead from `source` or one of the given ids to one of these ids? -/
def Within (source : Id) (ids : List Id) (p : Id × Id) : Prop :=
  p.1 ∈ source :: ids ∧ p.2 ∈ ids

theorem Within.mono {source source' : Id} {ids ids' : List Id} {p : Id × Id}
    (h : Within source ids p) (hsource : source ∈ source' :: ids') (hids : ∀ id ∈ ids, id ∈ ids') :
    Within source' ids' p := by
  refine ⟨?_, hids _ h.2⟩
  rcases List.mem_cons.mp h.1 with hp | hp
  · rwa [hp]
  · exact List.mem_cons_of_mem _ (hids _ hp)

mutual

theorem Figure.links_within (f : Figure) (source : Id) (n : Nat) :
    ∀ p ∈ f.links source n, Within source (nodeIds n f.size) p := by
  intro p hp
  cases f with
  | mark =>
    rw [List.mem_singleton.mp hp]
    exact ⟨List.mem_cons_self, List.mem_cons_self⟩
  | fork _ _ operands =>
    rw [Figure.size, nodeIds_one_add]
    rcases List.mem_cons.mp hp with rfl | hp
    · exact ⟨List.mem_cons_self, List.mem_cons_self⟩
    · obtain ⟨hsource, htarget⟩ := operandLinks_within operands (nodeId n) (n + 1) p hp
      exact ⟨List.mem_cons_of_mem _ hsource, htarget⟩
  | box _ _ _ branches =>
    rw [Figure.size, nodeIds_one_add]
    rcases List.mem_cons.mp hp with rfl | hp
    · exact ⟨List.mem_cons_self, List.mem_cons_self⟩
    · exact (branchLinks_within branches (nodeId n) (n + 1) p hp).mono
        (List.mem_cons_of_mem _ List.mem_cons_self) fun _ => List.mem_cons_of_mem _

/-- The links of a flow lead from its source or one of its elements to one of its elements. -/
theorem flowLinks_within (fs : List Figure) (source : Id) (n : Nat) :
    ∀ p ∈ flowLinks source n fs, Within source (nodeIds n (flowSize fs)) p := by
  intro p hp
  cases fs with
  | nil => exact absurd hp (by simp [flowLinks])
  | cons f fs =>
    have hpos := f.size_pos
    rw [flowSize, nodeIds_add]
    rcases List.mem_append.mp hp with hp | hp
    · exact (f.links_within source n p hp).mono List.mem_cons_self
        fun _ => List.mem_append_left _
    · refine (flowLinks_within fs (nodeId n) (n + f.size) p hp).mono ?_
        fun _ => List.mem_append_right _
      refine List.mem_cons_of_mem _ (List.mem_append_left _ ?_)
      rw [nodeId_mem_nodeIds]
      omega

theorem operandLinks_within (flows : List (List Figure)) (id : Id) (n : Nat) :
    ∀ p ∈ operandLinks id n flows, p.1 ∈ id :: nodeIds n (branchSize flows) ∧
      p.2 ∈ id :: nodeIds n (branchSize flows) := by
  intro p hp
  cases flows with
  | nil => exact absurd hp (by simp [operandLinks])
  | cons flow flows =>
    rw [branchSize, nodeIds_add]
    rcases List.mem_append.mp hp with hp | hp
    · obtain ⟨hsource, htarget⟩ := (flowLinks_within flow id n p hp).mono List.mem_cons_self
        fun _ => List.mem_append_left (nodeIds (n + flowSize flow) (branchSize flows))
      exact ⟨hsource, List.mem_cons_of_mem _ htarget⟩
    · rcases List.mem_cons.mp hp with rfl | hp
      · refine ⟨?_, List.mem_cons_self⟩
        exact List.cons_subset_cons _ (List.subset_append_left _ _) (flowEnd_mem id flow n)
      · obtain ⟨hsource, htarget⟩ := operandLinks_within flows id (n + flowSize flow) p hp
        have hsub := List.cons_subset_cons id (List.subset_append_right (nodeIds n (flowSize flow))
          (nodeIds (n + flowSize flow) (branchSize flows)))
        exact ⟨hsub hsource, hsub htarget⟩

theorem branchLinks_within (flows : List (List Figure)) (id : Id) (n : Nat) :
    ∀ p ∈ branchLinks id n flows, Within id (nodeIds n (branchSize flows)) p := by
  intro p hp
  cases flows with
  | nil => exact absurd hp (by simp [branchLinks])
  | cons flow flows =>
    rw [branchSize, nodeIds_add]
    rcases List.mem_append.mp hp with hp | hp
    · exact (flowLinks_within flow id n p hp).mono List.mem_cons_self
        fun _ => List.mem_append_left _
    · exact (branchLinks_within flows id (n + flowSize flow) p hp).mono List.mem_cons_self
        fun _ => List.mem_append_right _

end

/-- The edges of the graph of a query connect links of its flow, and the element on which the flow
ends with the end node. Their labels are names of types. -/
theorem Graph.build_linked (q : Query) (expand : Bool) :
    ∀ w ∈ (build (some q) expand).edges,
      w.ends ∈ flowLinks startId 0 (q.figures expand) ++
        [(flowEnd startId 0 (q.figures expand), endIdOf (flowSize (q.figures expand)))] ∧
      ∃ type : Option ValueType, w.label = type.map ValueType.name := by
  obtain ⟨hflow, hend⟩ := drawFlow_linked (q.figures expand) (begin expand)
  have hcounter := (drawFlow_placed (q.figures expand) (begin expand)).counter
  rw [show (begin expand).counter = 0 from rfl, Nat.zero_add] at hcounter
  have hended : Linked [(flowEnd startId 0 (q.figures expand),
      endIdOf (flowSize (q.figures expand)))] (drawFlow (q.figures expand) (begin expand))
      (ended (drawFlow (q.figures expand) (begin expand))) := by
    have hfile := Builder.file_eq (endNode (flowSize (q.figures expand)))
      (drawFlow (q.figures expand) (begin expand))
    simp only [ended, hcounter]
    rw [hfile]
    split
    · exact ⟨[], (List.append_nil _).symm, fun _ hw => absurd hw List.not_mem_nil⟩
    · rw [Builder.connect_with_scopes]
      have hconnect := Builder.connect_linked (drawFlow (q.figures expand) (begin expand)).cursor
        (endIdOf (flowSize (q.figures expand))) (drawFlow (q.figures expand) (begin expand))
      rw [hend] at hconnect ⊢
      exact hconnect.congr rfl rfl
  obtain ⟨new, hedges, hnew⟩ := hflow.trans hended
  rw [build_some, finish_eq]
  intro w hw
  refine hnew w ?_
  rw [hedges] at hw
  exact hw

end JqFlow
