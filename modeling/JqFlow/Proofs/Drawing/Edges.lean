import JqFlow.Proofs.Drawing.Links

/-!
# The edges of a drawing

Each figure is entered by one edge from the figure before it, or from the operator or the container
that it begins a branch of. From the last figure of an operand an edge leads back to the operator. An
edge has the type of its source as its label unless it begins a branch, and the builder takes it to
begin one as long as nothing has been drawn since a branch was begun. So the edge that leaves a
container has no label if nothing was drawn in the last branch inside.

## Main definitions

- `Figure.dangles`: is a branch still to begin when a figure has been drawn?
- `Figure.edges`, `flowEdges`, `operandEdges`, `branchEdges`: the edges of a drawing

## Main statements

- `drawFlow_edges`: drawing a flow adds exactly its edges
- `Graph.edges_build`: the edges of the graph of a query
-/

namespace JqFlow

open Builder (nodeId)

mutual

/-- Is a branch still to begin when a figure has been drawn? In a container it is if nothing was drawn
in the branch that was begun last. -/
def Figure.dangles : Figure → Bool
  | .mark .. | .fork .. => false
  | .box _ _ _ branches => branchesDangle false branches

/-- Is a branch still to begin after a flow? A flow that is empty leaves it as it was. -/
def flowDangles (branching : Bool) : List Figure → Bool
  | [] => branching
  | f :: fs => flowDangles f.dangles fs

/-- Is a branch still to begin after several branches? -/
def branchesDangle (branching : Bool) : List (List Figure) → Bool
  | [] => branching
  | flow :: flows => branchesDangle (flowDangles true flow) flows

end

/-- The label of the edge that leaves a figure. -/
def Figure.leaving (f : Figure) : Option Text :=
  if f.dangles then none else f.type.map ValueType.name

/-- The label of the edge that leaves a flow, if the label before the flow is known. -/
def flowLeaving (label : Option Text) : List Figure → Option Text
  | [] => label
  | f :: fs => flowLeaving f.leaving fs

/-- The edge from the end of a flow to what comes after it. Where nothing was drawn there is none. -/
def exitEdges (source : Id) (n : Nat) (target : Id) : List Figure → List Edge
  | [] => []
  | f :: fs => [⟨flowEnd source n (f :: fs), target, flowLeaving none (f :: fs)⟩]

mutual

/-- The edges of a figure that is numbered from `n` and entered from `source` by an edge with the
given label. -/
def Figure.edges (source : Id) (label : Option Text) (n : Nat) : Figure → List Edge
  | .mark .. => [⟨source, nodeId n, label⟩]
  | .fork _ _ operands => ⟨source, nodeId n, label⟩ :: operandEdges (nodeId n) (n + 1) operands
  | .box _ _ _ branches => ⟨source, nodeId n, label⟩ :: branchEdges (nodeId n) (n + 1) branches

/-- The edges of a flow, each figure entered from the one before it. -/
def flowEdges (source : Id) (label : Option Text) (n : Nat) : List Figure → List Edge
  | [] => []
  | f :: fs => f.edges source label n ++ flowEdges (nodeId n) f.leaving (n + f.size) fs

/-- The edges of operands, out of their operator and back to it. -/
def operandEdges (id : Id) (n : Nat) : List (List Figure) → List Edge
  | [] => []
  | flow :: flows =>
    flowEdges id none n flow ++ exitEdges id n id flow ++ operandEdges id (n + flowSize flow) flows

/-- The edges of branches, out of their container. -/
def branchEdges (id : Id) (n : Nat) : List (List Figure) → List Edge
  | [] => []
  | flow :: flows => flowEdges id none n flow ++ branchEdges id (n + flowSize flow) flows

end

/-! ### Edges are between links -/

mutual

theorem Figure.ends_mem_links (f : Figure) (source : Id) (label : Option Text) (n : Nat) :
    ∀ w ∈ f.edges source label n, w.ends ∈ f.links source n := by
  intro w hw
  cases f with
  | mark =>
    rw [List.mem_singleton.mp hw]
    exact List.mem_singleton.mpr rfl
  | fork _ _ operands =>
    rcases List.mem_cons.mp hw with rfl | hw
    · exact List.mem_cons_self
    · exact List.mem_cons_of_mem _ (operandEnds_mem_links operands (nodeId n) (n + 1) w hw)
  | box _ _ _ branches =>
    rcases List.mem_cons.mp hw with rfl | hw
    · exact List.mem_cons_self
    · exact List.mem_cons_of_mem _ (branchEnds_mem_links branches (nodeId n) (n + 1) w hw)

theorem flowEnds_mem_links (fs : List Figure) (source : Id) (label : Option Text) (n : Nat) :
    ∀ w ∈ flowEdges source label n fs, w.ends ∈ flowLinks source n fs := by
  intro w hw
  cases fs with
  | nil => exact absurd hw (by simp [flowEdges])
  | cons f fs =>
    rcases List.mem_append.mp hw with hw | hw
    · exact List.mem_append_left _ (f.ends_mem_links source label n w hw)
    · exact List.mem_append_right _ (flowEnds_mem_links fs (nodeId n) f.leaving (n + f.size) w hw)

theorem operandEnds_mem_links (flows : List (List Figure)) (id : Id) (n : Nat) :
    ∀ w ∈ operandEdges id n flows, w.ends ∈ operandLinks id n flows := by
  intro w hw
  cases flows with
  | nil => exact absurd hw (by simp [operandEdges])
  | cons flow flows =>
    rw [operandEdges, List.append_assoc] at hw
    rcases List.mem_append.mp hw with hw | hw
    · exact List.mem_append_left _ (flowEnds_mem_links flow id none n w hw)
    · refine List.mem_append_right _ ?_
      rcases List.mem_append.mp hw with hw | hw
      · cases flow with
        | nil => exact absurd hw (by simp [exitEdges])
        | cons f fs =>
          rw [List.mem_singleton.mp hw]
          exact List.mem_cons_self
      · exact List.mem_cons_of_mem _ (operandEnds_mem_links flows id (n + flowSize flow) w hw)

theorem branchEnds_mem_links (flows : List (List Figure)) (id : Id) (n : Nat) :
    ∀ w ∈ branchEdges id n flows, w.ends ∈ branchLinks id n flows := by
  intro w hw
  cases flows with
  | nil => exact absurd hw (by simp [branchEdges])
  | cons flow flows =>
    rcases List.mem_append.mp hw with hw | hw
    · exact List.mem_append_left _ (flowEnds_mem_links flow id none n w hw)
    · exact List.mem_append_right _ (branchEnds_mem_links flows id (n + flowSize flow) w hw)

end

/-- Every edge of a flow enters one of its elements. -/
theorem flowEdges_target {fs : List Figure} {source : Id} {label : Option Text} {n : Nat} {w : Edge}
    (hw : w ∈ flowEdges source label n fs) :
    ∃ k, n ≤ k ∧ k < n + flowSize fs ∧ w.target = nodeId k := by
  have hwithin := flowLinks_within fs source n _ (flowEnds_mem_links fs source label n w hw)
  obtain ⟨k, hk, hlt, heq⟩ := mem_nodeIds.mp hwithin.2
  exact ⟨k, hk, hlt, heq.symm⟩

theorem branchEdges_target {flows : List (List Figure)} {id : Id} {n : Nat} {w : Edge}
    (hw : w ∈ branchEdges id n flows) : w.target ∈ nodeIds n (branchSize flows) :=
  (branchLinks_within flows id n _ (branchEnds_mem_links flows id n w hw)).2

/-! ### Drawing adds exactly the edges -/

open Builder (Placed Spent Fresh Drawn At)

/-- After an operand the way back is taken. It is never connected already: its source has no number
below those of the operand, and the edges inside the operand do not enter the operator. -/
theorem moveBack_drawn {b b' : Builder} {ws : List Edge} {k op m : Nat} (hb : Fresh b)
    (hop : op < b.counter) (hdrawn : Drawn ws k b b') (hcursor : b'.cursor = nodeId m)
    (hm : b.counter ≤ m) (hws : ∀ w ∈ ws, ∃ k, b.counter ≤ k ∧ w.target = nodeId k) :
    Drawn (ws ++ [⟨nodeId m, nodeId op, b'.pending⟩]) k b (b'.moveTo (nodeId op)) ∧
      At (nodeId op) false (b.types.lookup (nodeId op)) (b'.moveTo (nodeId op)) := by
  have hspent : Spent b'.counter (nodeId op) :=
    Builder.spent_nodeId (by rw [hdrawn.counter]; omega)
  have hne : b'.cursor ≠ nodeId op := by
    rw [hcursor]
    intro h
    have := Builder.nodeId_injective h
    omega
  have hnew : (b'.cursor, nodeId op) ∉ b'.connected := by
    rw [hcursor, hdrawn.connected]
    intro h
    rcases List.mem_append.mp h with h | h
    · obtain ⟨w, hw, hends⟩ := List.mem_map.mp (List.mem_reverse.mp h)
      obtain ⟨k, hk, htarget⟩ := hws w hw
      have hkop : k = op :=
        Builder.nodeId_injective (htarget.symm.trans (congrArg Prod.snd hends))
      omega
    · exact (hb.pair _ h).1 m hm rfl
  obtain ⟨hmove, hat⟩ := Builder.moveTo_drawn hdrawn.fresh hspent hne hnew
  rw [hcursor] at hmove
  rw [hdrawn.types _ (Builder.spent_nodeId hop)] at hat
  exact ⟨hdrawn.trans hmove, hat⟩

/-- The element on which a flow ends has a number, if the flow is not empty. -/
theorem exists_flowEnd (source : Id) (f : Figure) (fs : List Figure) (n : Nat) :
    ∃ m, n ≤ m ∧ m < n + flowSize (f :: fs) ∧ flowEnd source n (f :: fs) = nodeId m := by
  have hpos := f.size_pos
  rcases List.mem_cons.mp (flowEnd_mem (nodeId n) fs (n + f.size)) with h | h
  · exact ⟨n, by omega, by rw [flowSize]; omega, h⟩
  · obtain ⟨m, hm, hlt, heq⟩ := mem_nodeIds.mp h
    exact ⟨m, by omega, by rw [flowSize]; omega, heq.symm⟩

/-- What a flow adds to a drawing, and how it leaves it. -/
structure FlowDrawn (fs : List Figure) (before after : Builder) : Prop where
  drawn : Drawn (flowEdges before.cursor before.pending before.counter fs) (flowSize fs) before after
  cursor : after.cursor = flowEnd before.cursor before.counter fs
  pending : after.pending = flowLeaving before.pending fs
  branching : after.branching = flowDangles before.branching fs

/-- An operand is drawn: its flow and the way back. -/
theorem FlowDrawn.operand {flow : List Figure} {op : Nat} {b b' : Builder} (hb : Fresh b)
    (hop : op < b.counter) (h : FlowDrawn flow (b.startBranch (nodeId op)) b') :
    Drawn (flowEdges (nodeId op) none b.counter flow ++
        exitEdges (nodeId op) b.counter (nodeId op) flow) (flowSize flow) b
        (b'.moveTo (nodeId op)) ∧
      At (nodeId op) false (b.types.lookup (nodeId op)) (b'.moveTo (nodeId op)) := by
  have hstart := Builder.startBranch_fresh hb (Builder.spent_nodeId hop)
  cases flow with
  -- Without a figure the way back would be a loop, and is left out.
  | nil =>
    have hdrawn : Drawn [] 0 (b.startBranch (nodeId op)) b' := h.drawn
    have hcursor : b'.cursor = nodeId op := h.cursor
    have hmove : b'.moveTo (nodeId op) = { b' with branching := false, cursor := nodeId op } := by
      simp [Builder.moveTo, Builder.connect, hcursor]
    have hspent : Spent b'.counter (nodeId op) := by
      rw [hdrawn.counter]
      exact Builder.spent_nodeId hop
    rw [hmove]
    exact ⟨⟨hdrawn.counter, hdrawn.edges, hdrawn.connected, hdrawn.types, hspent,
      hdrawn.fresh.pair, hdrawn.fresh.type⟩, rfl, rfl, hdrawn.types _ (Builder.spent_nodeId hop)⟩
  | cons f fs =>
    obtain ⟨m, hm, -, hend⟩ := exists_flowEnd (nodeId op) f fs b.counter
    obtain ⟨hback, hat⟩ := moveBack_drawn hstart hop h.drawn (h.cursor.trans hend) hm
      fun w hw => by
        obtain ⟨k, hk, -, htarget⟩ := flowEdges_target hw
        exact ⟨k, hk, htarget⟩
    rw [h.pending, ← hend] at hback
    exact ⟨hback.of_branch, hat⟩

-- The induction follows the figures. `Fresh` carries it: no number from the counter on has been used,
-- so an edge into a new element is never left out as one that is there already.

mutual

/-- Drawing a figure adds its edges and leaves the cursor at it. -/
theorem Figure.draw_edges (f : Figure) (b : Builder) (hb : Fresh b) :
    Drawn (f.edges b.cursor b.pending b.counter) f.size b (f.draw b) ∧
      At (nodeId b.counter) f.dangles f.type (f.draw b) := by
  cases f with
  | mark label type => exact Builder.drawMark_drawn hb label type
  | fork label type operands =>
    obtain ⟨hmark, hat⟩ := Builder.drawMark_drawn hb label type
    obtain ⟨hoperands, hat'⟩ := drawOperands_edges operands b.counter _ hmark.fresh
      (by rw [hmark.counter]; omega) hat
    rw [hmark.counter] at hoperands
    exact ⟨hmark.trans hoperands, hat'⟩
  | box label detail type branches =>
    obtain ⟨hopen, hat⟩ := Builder.drawOpen_drawn hb label detail type
    have hlt : b.counter < (b.drawOpen label detail type).counter := by
      rw [hopen.counter]
      omega
    obtain ⟨hbranches, hbranching⟩ := drawBranches_edges branches b.counter _ hopen.fresh hlt
    have hdrawn := hopen.trans hbranches
    have hscopes := (drawBranches_placed branches (nodeId b.counter) _).scopes _ _ _
      (Builder.drawOpen_scopes label detail type b)
    have hspent : Spent (drawBranches (nodeId b.counter) branches
        (b.drawOpen label detail type)).counter (nodeId b.counter) :=
      Builder.spent_nodeId (by rw [hdrawn.counter]; omega)
    -- The type is noted on opening and looked up after closing; nothing inside changes it.
    have htype := hbranches.types (nodeId b.counter) (Builder.spent_nodeId hlt)
    rw [hat.type] at htype
    have hclose := Builder.close_at hscopes
    rw [htype, hbranching, hat.branching] at hclose
    rw [hopen.counter] at hdrawn
    exact ⟨hdrawn.close hscopes hspent, hclose⟩

/-- Drawing a flow adds its edges and leaves the cursor where it ends. -/
theorem drawFlow_edges (fs : List Figure) (b : Builder) (hb : Fresh b) :
    FlowDrawn fs b (drawFlow fs b) := by
  cases fs with
  | nil => exact ⟨Drawn.refl hb, rfl, rfl, rfl⟩
  | cons f fs =>
    obtain ⟨hdrawn, hat⟩ := Figure.draw_edges f b hb
    obtain ⟨hrest, hcursor, hpending, hbranching⟩ := drawFlow_edges fs (f.draw b) hdrawn.fresh
    have hleaving : (f.draw b).pending = f.leaving := hat.pending
    rw [hat.cursor, hleaving, hdrawn.counter] at hrest
    rw [hat.cursor, hdrawn.counter] at hcursor
    rw [hleaving] at hpending
    rw [hat.branching] at hbranching
    exact ⟨hdrawn.trans hrest, hcursor, hpending, hbranching⟩

/-- Drawing operands adds their edges and leaves the cursor at the operator. -/
theorem drawOperands_edges (flows : List (List Figure)) (op : Nat) (b : Builder) (hb : Fresh b)
    (hop : op < b.counter) {type : Option ValueType} (hat : At (nodeId op) false type b) :
    Drawn (operandEdges (nodeId op) b.counter flows) (branchSize flows) b
        (drawOperands (nodeId op) flows b) ∧
      At (nodeId op) false type (drawOperands (nodeId op) flows b) := by
  cases flows with
  | nil => exact ⟨Drawn.refl hb, hat⟩
  | cons flow flows =>
    have hstart := Builder.startBranch_fresh hb (Builder.spent_nodeId hop)
    obtain ⟨hdrawn, hat'⟩ := (drawFlow_edges flow _ hstart).operand hb hop
    rw [hat.type] at hat'
    have hcounter := hdrawn.counter
    obtain ⟨hrest, hat''⟩ := drawOperands_edges flows op _ hdrawn.fresh
      (by rw [hcounter]; omega) hat'
    rw [hcounter] at hrest
    exact ⟨hdrawn.trans hrest, hat''⟩

/-- Drawing branches adds their edges. -/
theorem drawBranches_edges (flows : List (List Figure)) (box : Nat) (b : Builder) (hb : Fresh b)
    (hbox : box < b.counter) :
    Drawn (branchEdges (nodeId box) b.counter flows) (branchSize flows) b
        (drawBranches (nodeId box) flows b) ∧
      (drawBranches (nodeId box) flows b).branching = branchesDangle b.branching flows := by
  cases flows with
  | nil => exact ⟨Drawn.refl hb, rfl⟩
  | cons flow flows =>
    have hstart := Builder.startBranch_fresh hb (Builder.spent_nodeId hbox)
    obtain ⟨hdrawn, -, -, hdangles⟩ := drawFlow_edges flow _ hstart
    have hdrawn := hdrawn.of_branch
    have hcounter := hdrawn.counter
    obtain ⟨hrest, hbranching⟩ := drawBranches_edges flows box _ hdrawn.fresh
      (by rw [hcounter]; omega)
    rw [hcounter] at hrest
    rw [hdangles] at hbranching
    exact ⟨hdrawn.trans hrest, hbranching⟩

end

/-! ### The edges of a graph -/

namespace Graph

theorem begin_fresh (expand : Bool) : Fresh (begin expand) where
  cursor := fun m _ => (nodeId_ne_startId m).symm
  pair := fun _ hp => absurd hp List.not_mem_nil
  type := fun _ _ => rfl

/-- The end node is entered from the cursor. -/
theorem ended_edges {b : Builder} (hstart : b.cursor ≠ startId)
    (hend : b.cursor ≠ endIdOf b.counter)
    (hnew : (b.cursor, endIdOf b.counter) ∉ b.connected) :
    (ended b).edges = b.edges ++ [⟨b.cursor, endIdOf b.counter, b.pending⟩] := by
  have hfile := Builder.file_eq (endNode b.counter) b
  have hcursor : (b.file (endNode b.counter)).cursor = b.cursor := by rw [hfile]
  simp only [ended, hcursor, if_neg hstart]
  rw [hfile, Builder.connect_with_scopes, Builder.connect_of_new hend hnew]
  rfl

/-- The edges of the graph of a query are those of its flow, and the one to the end node. -/
theorem edges_build (q : Query) (expand : Bool) :
    (build (some q) expand).edges =
      flowEdges startId none 0 (q.figures expand) ++
        exitEdges startId 0 (endIdOf (flowSize (q.figures expand))) (q.figures expand) := by
  rw [build_some, finish_eq]
  obtain ⟨hdrawn, hcursor, hpending, -⟩ :=
    drawFlow_edges (q.figures expand) (begin expand) (begin_fresh expand)
  cases hfs : q.figures expand with
  | nil => rfl
  | cons f fs =>
    rw [hfs] at hdrawn hcursor hpending
    obtain ⟨m, -, -, hend⟩ := exists_flowEnd startId f fs 0
    have hcounter : (drawFlow (f :: fs) (begin expand)).counter = flowSize (f :: fs) := by
      rw [hdrawn.counter]
      exact Nat.zero_add _
    have hnode : (drawFlow (f :: fs) (begin expand)).cursor = nodeId m := hcursor.trans hend
    show (ended (drawFlow (f :: fs) (begin expand))).edges = _
    rw [ended_edges, hdrawn.edges, hcounter, hcursor, hpending]
    · rfl
    · rw [hnode]
      exact nodeId_ne_startId m
    · rw [hnode]
      exact nodeId_ne_endIdOf m _
    -- Edges of the flow enter numbered elements only, so none of them enters the end node.
    · rw [hdrawn.connected]
      intro hmem
      rcases List.mem_append.mp hmem with hmem | hmem
      · obtain ⟨w, hw, hends⟩ := List.mem_map.mp (List.mem_reverse.mp hmem)
        obtain ⟨k, -, -, htarget⟩ := flowEdges_target hw
        exact nodeId_ne_endIdOf k _ (htarget.symm.trans (congrArg Prod.snd hends))
      · exact absurd hmem List.not_mem_nil

end Graph
end JqFlow
