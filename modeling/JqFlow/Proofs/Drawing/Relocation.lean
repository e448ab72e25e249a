import JqFlow.Proofs.Drawing.Folding
import JqFlow.Proofs.Drawing.Operations
import JqFlow.Proofs.Drawing.SpanningTree

/-!
# Drawing inside another drawing

Whatever has been drawn before, a query is drawn as it is drawn alone: with the same elements, in
the same order, and with the same edges between them, under numbers that go on where the drawing had
come to. What is there already is left alone. Only the edge that enters the query can tell where it
comes from, by its label.

## Main definitions

- `Builder.Reached`: a drawing that is reached while a graph is built
- `Builder.relocate`: the ids of a query that is drawn alone, as they are inside another drawing
- `Graph.inside`, `Graph.insideEdges`: a graph without its start node and its end node
- `Graph.InsertedInto`: how a drawing differs after a graph was drawn inside it

## Main statements

- `Builder.Reached.visit`: drawing a query leads to a drawing that is reached
- `Builder.Reached.settled`: nothing is known yet of the ids that are still to be given
- `flowElements_renamed`, `flowWires_renamed`: flows with other numbers
- `Graph.inserted_of_build?`: what drawing a query does to a drawing that is reached

## Design notes

A drawing can be spoilt by steps to ids that have not been given. None is taken while a graph is
built: a branch begins at an element that is there, and the way back leads to one.
-/

namespace JqFlow

open Builder (nodeId)

/-! ### The drawings that are reached -/

namespace Builder

/-- Is an id that of the start node or of an element that has been drawn? -/
def Given (b : Builder) (id : Id) : Prop :=
  id = Graph.startId ∨ ∃ m < b.counter, id = nodeId m

theorem Given.mono {b b' : Builder} {id : Id} (h : b.Given id) (hle : b.counter ≤ b'.counter) :
    b'.Given id :=
  h.imp_right fun ⟨m, hm, hid⟩ => ⟨m, Nat.lt_of_lt_of_le hm hle, hid⟩

theorem Given.spent {b : Builder} {id : Id} (h : b.Given id) : Spent b.counter id := by
  obtain rfl | ⟨m, hm, rfl⟩ := h
  · exact fun k _ => (Graph.nodeId_ne_startId k).symm
  · exact spent_nodeId hm

/-- A drawing that is reached while a graph is built, by any number of its steps: an element is
drawn, a container is opened or closed, a branch is begun at an element that is there, or the way
back to one is taken. -/
inductive Reached (expand : Bool) : Builder → Prop
  | begin : Reached expand (Graph.begin expand)
  | node {b : Builder} (label : Text) (source : Option Query) (h : Reached expand b) :
    Reached expand (b.addNode label none source).2
  | opened {b : Builder} (label : Text) (detail : Option Text) (source : Option Query)
    (h : Reached expand b) : Reached expand (b.openContainer label detail source).2
  | closed {b b' : Builder} (h : Reached expand b) (hclose : b.closeContainer = (none, b')) :
    Reached expand b'
  | branch {b : Builder} {seed : Id} (h : Reached expand b) (hseed : b.Given seed) :
    Reached expand (b.startBranch seed)
  | back {b : Builder} {id : Id} (h : Reached expand b) (hid : b.Given id) :
    Reached expand (b.moveTo id)

/-- Every type is that of some query. -/
theorem exists_source (type : Option ValueType) :
    ∃ source : Option Query, source.bind Query.outputType? = type := by
  cases type with
  | none => exact ⟨none, rfl⟩
  | some type =>
    cases type with
    | null => exact ⟨some .null, rfl⟩
    | boolean => exact ⟨some (.bool true), rfl⟩
    | number => exact ⟨some (.number []), rfl⟩
    | string => exact ⟨some (.string []), rfl⟩
    | array => exact ⟨some (.array none), rfl⟩
    | object => exact ⟨some (.object []), rfl⟩

namespace Reached

variable {expand : Bool} {b : Builder}

theorem drawMark (h : Reached expand b) (label : Text) (type : Option ValueType) :
    Reached expand (b.drawMark label type) := by
  obtain ⟨source, rfl⟩ := exists_source type
  have hnode := h.node label source
  rwa [addNode_eq] at hnode

theorem drawOpen (h : Reached expand b) (label : Text) (detail : Option Text)
    (type : Option ValueType) : Reached expand (b.drawOpen label detail type) := by
  obtain ⟨source, rfl⟩ := exists_source type
  have hopened := h.opened label detail source
  rwa [openContainer_eq] at hopened

theorem bottomed (h : Reached expand b) : Bottomed b.scopes := by
  induction h with
  | begin => exact ⟨0, rfl⟩
  | node label source _ ih => exact (addNode_scopeStep ih label none source).bottomed ih
  | opened label detail source _ ih =>
    rw [openContainer_eq]
    exact (drawOpen_scopes _ _ _ _ ▸ ScopeStep.opened ⟨_, label, detail⟩ _).bottomed ih
  | closed _ hclose ih => exact (closeContainer_scopeStep ih hclose).bottomed ih
  | branch _ _ ih => exact ih
  | back _ _ ih => rwa [moveTo_scopes]

/-- A container is closed after something was placed inside. -/
theorem close {after : Builder} {label : Text} {detail : Option Text} {type : Option ValueType}
    {es : List Element} {k : Nat} (hb : Reached expand b) (h : Reached expand after)
    (hplaced : Placed es k (b.drawOpen label detail type) after) : Reached expand after.close := by
  have hscopes := hplaced.scopes _ _ _ (drawOpen_scopes label detail type b)
  obtain ⟨container, placed, outer, houter⟩ := hb.bottomed.exists_cons
  refine h.closed ?_
  simp only [closeContainer, hscopes, houter]

end Reached

end Builder

open Builder (Reached Given)

section

variable {expand : Bool}

mutual

theorem Figure.draw_reached (f : Figure) {b : Builder} (h : Reached expand b) :
    Reached expand (f.draw b) := by
  cases f with
  | mark label type => exact h.drawMark label type
  | fork label type operands =>
    have hgiven : (b.drawMark label type).Given (nodeId b.counter) :=
      .inr ⟨b.counter, by simp, rfl⟩
    exact drawOperands_reached operands hgiven (h.drawMark label type)
  | box label detail type branches =>
    have hgiven : (b.drawOpen label detail type).Given (nodeId b.counter) :=
      .inr ⟨b.counter, by simp, rfl⟩
    exact h.close (drawBranches_reached branches hgiven (h.drawOpen label detail type))
      (drawBranches_placed branches _ _)

/-- Drawing a flow leads to a drawing that is reached. -/
theorem drawFlow_reached (fs : List Figure) {b : Builder} (h : Reached expand b) :
    Reached expand (drawFlow fs b) := by
  cases fs with
  | nil => exact h
  | cons f fs => exact drawFlow_reached fs (Figure.draw_reached f h)

theorem drawOperands_reached (flows : List (List Figure)) {b : Builder} {id : Id}
    (hid : b.Given id) (h : Reached expand b) : Reached expand (drawOperands id flows b) := by
  cases flows with
  | nil => exact h
  | cons flow flows =>
    have hplaced := drawFlow_placed flow (b.startBranch id)
    have hgiven : (drawFlow flow (b.startBranch id)).Given id :=
      hid.mono (by rw [hplaced.counter]; exact Nat.le_add_right _ _)
    exact drawOperands_reached flows (hgiven.mono (Nat.le_of_eq (Builder.moveTo_counter _ _).symm))
      ((drawFlow_reached flow (h.branch hid)).back hgiven)

theorem drawBranches_reached (flows : List (List Figure)) {b : Builder} {id : Id}
    (hid : b.Given id) (h : Reached expand b) : Reached expand (drawBranches id flows b) := by
  cases flows with
  | nil => exact h
  | cons flow flows =>
    have hplaced := drawFlow_placed flow (b.startBranch id)
    have hgiven : (drawFlow flow (b.startBranch id)).Given id :=
      hid.mono (by rw [hplaced.counter]; exact Nat.le_add_right _ _)
    exact drawBranches_reached flows hgiven (drawFlow_reached flow (h.branch hid))

end

end

namespace Builder

/-! ### What holds of every drawing that is reached -/

theorem moveTo_fresh {b : Builder} {id : Id} (hb : Fresh b) (hid : Spent b.counter id) :
    Fresh (b.moveTo id) := by
  rw [moveTo, connect]
  dsimp only
  split
  · exact ⟨hid, hb.pair, hb.type⟩
  · refine ⟨hid, ?_, hb.type⟩
    rw [List.forall_mem_cons]
    exact ⟨⟨hb.cursor, hid⟩, hb.pair⟩

theorem ScopeStep.mem_openIds {scopes scopes' : List Scope} {ids : List Id}
    (h : ScopeStep scopes ids scopes') {id : Id} (hid : id ∈ openIds scopes') :
    id ∈ ids ∨ id ∈ openIds scopes := by
  cases h with
  | same => exact .inr hid
  | filed => exact .inr hid
  | opened c =>
    rcases List.mem_cons.mp hid with rfl | hid
    · exact .inl List.mem_cons_self
    · exact .inr hid
  | closed c => exact .inr (List.mem_cons_of_mem _ hid)

/-- Nothing is known of the ids that are still to be given, the open containers have ids that were
given, and only the outermost scope belongs to none. -/
structure Settled (b : Builder) : Prop where
  fresh : Fresh b
  bottomed : Bottomed b.scopes
  openIds : ∀ id ∈ openIds b.scopes, Spent b.counter id

theorem Settled.step {b b' : Builder} {ids : List Id} (h : Settled b) (hfresh : Fresh b')
    (hscopes : ScopeStep b.scopes ids b'.scopes) (hids : ∀ id ∈ ids, Spent b'.counter id)
    (hle : b.counter ≤ b'.counter) : Settled b' where
  fresh := hfresh
  bottomed := hscopes.bottomed h.bottomed
  openIds := fun id hid =>
    (hscopes.mem_openIds hid).elim (hids id) fun hid => (h.openIds id hid).mono hle

theorem Settled.close {b b' : Builder} (h : Settled b) (hclose : b.closeContainer = (none, b')) :
    Settled b' := by
  obtain rfl : b.close = b' := close_of_closeContainer hclose
  obtain ⟨container, inside, outer, hscopes⟩ := h.bottomed.exists_cons
  cases container with
  | none => simp [closeContainer, hscopes] at hclose
  | some c =>
    have hspent : Spent b.counter c.id := by
      refine h.openIds c.id ?_
      rw [hscopes]
      exact List.mem_cons_self
    exact h.step ((Drawn.refl h.fresh).close hscopes hspent).fresh
      (closeContainer_scopeStep h.bottomed hclose) (by simp) (close_counter b).symm.le

namespace Reached

variable {expand : Bool} {b : Builder}

/-- Drawing a query leads to a drawing that is reached. -/
theorem visit (h : Reached expand b) (q : Query) : Reached expand (Builder.visit q b) := by
  rw [visit_eq_drawFlow]
  exact drawFlow_reached _ h

theorem expandGroups (h : Reached expand b) : b.expandGroups = expand := by
  induction h with
  | begin => rfl
  | node label source _ ih => rwa [addNode_eq, drawMark_expandGroups]
  | opened label detail source _ ih => rwa [openContainer_eq, drawOpen_expandGroups]
  | @closed b b' _ hclose ih =>
    obtain rfl : b.close = b' := close_of_closeContainer hclose
    rwa [close_expandGroups]
  | branch _ _ ih => exact ih
  | back _ _ ih => rwa [moveTo_expandGroups]

theorem settled (h : Reached expand b) : Settled b := by
  induction h with
  | begin => exact ⟨Graph.begin_fresh expand, ⟨0, rfl⟩, fun _ hid => absurd hid List.not_mem_nil⟩
  | @node b label source _ ih =>
    have hdrawn := (drawMark_drawn ih.fresh label (source.bind Query.outputType?)).1
    refine ih.step (addNode_eq label source b ▸ hdrawn.fresh)
      (addNode_scopeStep ih.bottomed label none source) ?_ ?_
    · rw [addNode_counter]
      simpa using spent_nodeId (Nat.lt_succ_self b.counter)
    · rw [addNode_counter]
      exact Nat.le_succ _
  | @opened b label detail source _ ih =>
    have hdrawn := (drawOpen_drawn ih.fresh label detail (source.bind Query.outputType?)).1
    have hscopes : ScopeStep b.scopes [nodeId b.counter]
        (b.drawOpen label detail (source.bind Query.outputType?)).scopes := by
      rw [drawOpen_scopes]
      exact .opened ⟨nodeId b.counter, label, detail⟩ b.scopes
    rw [openContainer_eq]
    refine ih.step hdrawn.fresh hscopes ?_ ?_
    · rw [drawOpen_counter]
      simpa using spent_nodeId (Nat.lt_succ_self b.counter)
    · rw [drawOpen_counter]
      exact Nat.le_succ _
  | closed _ hclose ih => exact ih.close hclose
  | branch _ hseed ih =>
    exact ih.step (startBranch_fresh ih.fresh hseed.spent) (.same _) (by simp) (Nat.le_refl _)
  | @back b id _ hid ih =>
    have hscopes : ScopeStep b.scopes [] (b.moveTo id).scopes := by
      rw [moveTo_scopes]
      exact .same b.scopes
    exact ih.step (moveTo_fresh ih.fresh hid.spent) hscopes (by simp)
      (Nat.le_of_eq (moveTo_counter id b).symm)

end Reached

end Builder

/-! ### Flows with other numbers -/

/-- Ids whose numbers are greater by `c`, and the start node in the place of `source`. -/
structure Moves (rename : Id → Id) (source : Id) (c : Nat) : Prop where
  start : rename Graph.startId = source
  node : ∀ n, rename (nodeId n) = nodeId (n + c)

section

variable {rename : Id → Id} {source : Id} {c : Nat}

mutual

theorem Figure.elements_renamed (h : Moves rename source c) (f : Figure) (n : Nat) :
    Element.renamedList rename (f.elements n) = f.elements (n + c) := by
  cases f with
  | mark label type =>
    simp only [Figure.elements, Element.renamedList, Element.renamed, h.node]
  | fork label type operands =>
    simp only [Figure.elements, Element.renamedList, Element.renamed, h.node,
      branchElements_renamed h operands, Nat.add_right_comm]
  | box label detail type branches =>
    simp only [Figure.elements, Element.renamedList, Element.renamed, h.node,
      branchElements_renamed h branches, Nat.add_right_comm]

/-- The elements of a flow with other numbers. -/
theorem flowElements_renamed (h : Moves rename source c) (fs : List Figure) (n : Nat) :
    Element.renamedList rename (flowElements n fs) = flowElements (n + c) fs := by
  cases fs with
  | nil => rfl
  | cons f fs =>
    rw [flowElements, flowElements, Element.renamedList_append, Figure.elements_renamed h f,
      flowElements_renamed h fs, Nat.add_right_comm]

theorem branchElements_renamed (h : Moves rename source c) (flows : List (List Figure))
    (n : Nat) :
    Element.renamedList rename (branchElements n flows) = branchElements (n + c) flows := by
  cases flows with
  | nil => rfl
  | cons flow flows =>
    rw [branchElements, branchElements, Element.renamedList_append, flowElements_renamed h flow,
      branchElements_renamed h flows, Nat.add_right_comm]

end

theorem lastNumber_add (fs : List Figure) (n c : Nat) :
    lastNumber (n + c) fs = lastNumber n fs + c := by
  induction fs generalizing n with
  | nil => rfl
  | cons f fs ih =>
    cases fs with
    | nil => rfl
    | cons g gs =>
      have hrest := ih (n + f.size)
      rw [Nat.add_right_comm] at hrest
      exact hrest

mutual

theorem Figure.wires_renamed (h : Moves rename source c) (f : Figure) (entry : Id)
    (label : Option Text) (n : Nat) :
    (f.wires entry label n).map (Edge.renamed rename) =
      f.wires (rename entry) label (n + c) := by
  cases f with
  | mark _ type => simp only [Figure.wires, List.map_cons, List.map_nil, Edge.renamed, h.node]
  | fork _ type operands =>
    simp only [Figure.wires, List.map_cons, Edge.renamed, h.node,
      operandWires_renamed h operands, Nat.add_right_comm]
  | box _ detail type branches =>
    simp only [Figure.wires, List.map_cons, Edge.renamed, h.node,
      branchWires_renamed h branches, Nat.add_right_comm]

/-- The edges of a flow with other numbers, and entered from elsewhere. -/
theorem flowWires_renamed (h : Moves rename source c) (fs : List Figure) (entry : Id)
    (label : Option Text) (n : Nat) :
    (flowWires entry label n fs).map (Edge.renamed rename) =
      flowWires (rename entry) label (n + c) fs := by
  cases fs with
  | nil => rfl
  | cons f fs =>
    rw [flowWires, flowWires, List.map_append, Figure.wires_renamed h f,
      flowWires_renamed h fs, h.node, Nat.add_right_comm]

theorem operandWires_renamed (h : Moves rename source c) (flows : List (List Figure)) (id n : Nat) :
    (operandWires (nodeId id) n flows).map (Edge.renamed rename) =
      operandWires (nodeId (id + c)) (n + c) flows := by
  cases flows with
  | nil => rfl
  | cons flow flows =>
    simp only [operandWires, List.map_append, List.map_cons, flowWires_renamed h flow,
      operandWires_renamed h flows, Edge.renamed, h.node, lastNumber_add, Nat.add_right_comm]

theorem branchWires_renamed (h : Moves rename source c) (flows : List (List Figure)) (id n : Nat) :
    (branchWires (nodeId id) n flows).map (Edge.renamed rename) =
      branchWires (nodeId (id + c)) (n + c) flows := by
  cases flows with
  | nil => rfl
  | cons flow flows =>
    simp only [branchWires, List.map_append, flowWires_renamed h flow,
      branchWires_renamed h flows, h.node, Nat.add_right_comm]

end

end

/-! ### A graph inside another drawing -/

/-- The number that the id of an element ends in. -/
def Builder.numberOf (id : Id) : Nat :=
  let digits := (id.drop 5).filterMap fun
    | .scalar c => some c
    | .surrogate _ => none
  Nat.ofDigitChars 10 digits 0

theorem Builder.numberOf_nodeId (n : Nat) : numberOf (nodeId n) = n := by
  have hdrop : (nodeId n).drop 5 = (Nat.toDigits 10 n).map CodePoint.scalar := rfl
  rw [numberOf, hdrop, List.filterMap_map]
  exact (congrArg _ List.filterMap_some).trans Nat.ofDigitChars_ten_toDigits

/-- The ids of what is drawn alone, as they are where a drawing has come to: the cursor is in the
place of the start node, and numbers go on from the next one. -/
def Builder.relocate (b : Builder) (id : Id) : Id :=
  if id = Graph.startId then b.cursor else nodeId (numberOf id + b.counter)

theorem Builder.relocate_moves (b : Builder) : Moves b.relocate b.cursor b.counter where
  start := if_pos rfl
  node n := by rw [relocate, if_neg (Graph.nodeId_ne_startId n), numberOf_nodeId]

/-- Edges with another label on the first of them. -/
def Edge.labelFirst (label : Option Text) : List Edge → List Edge
  | [] => []
  | w :: ws => { w with label := label } :: ws

theorem labelFirst_flowWires (label label' : Option Text) (source : Id) (n : Nat)
    (fs : List Figure) :
    Edge.labelFirst label' (flowWires source label n fs) = flowWires source label' n fs := by
  cases fs with
  | nil => rfl
  | cons f fs => cases f <;> rfl

theorem Element.id_mem_declaredIds {e : Element} {es : List Element} (h : e ∈ es)
    (outer : List Id) : e.id ∈ declaredIds outer es := by
  obtain ⟨before, after, rfl⟩ := List.append_of_mem h
  rw [declaredIds_append]
  refine List.mem_append_right _ ?_
  cases e <;> exact List.mem_cons_self

namespace Graph

/-- The elements of a graph without the start node and the end node. -/
def inside (g : Graph) : List Element :=
  g.elements.filter fun e => e.id ≠ startId && e.id ≠ g.endId

/-- The edges of a graph without those to the end node. -/
def insideEdges (g : Graph) : List Edge :=
  g.edges.filter fun w => w.target ≠ g.endId

theorem inside_build (q : Query) (expand : Bool) :
    (build (some q) expand).inside = flowElements 0 (q.figures expand) := by
  obtain ⟨helements, -, hend⟩ := build_elements q expand
  have hkept : ∀ e ∈ flowElements 0 (q.figures expand),
      (e.id ≠ startId && e.id ≠ endIdOf (flowSize (q.figures expand))) = true := by
    intro e he
    have hid := Element.id_mem_declaredIds he []
    rw [declaredIds_flowElements] at hid
    obtain ⟨k, -, -, hk⟩ := mem_nodeIds.mp hid
    simp [← hk, nodeId_ne_startId, nodeId_ne_endIdOf]
  rw [inside, helements, hend, List.filter_append,
    List.filter_cons_of_neg (by simp [startNode, Element.id]), List.filter_eq_self.mpr hkept]
  simp [endNode, Element.id]

theorem insideEdges_build {q : Query} {expand : Bool} (h : Drawable (q.figures expand)) :
    (build (some q) expand).insideEdges = flowWires startId none 0 (q.figures expand) := by
  have hkept : ∀ w ∈ flowWires startId none 0 (q.figures expand),
      decide (w.target ≠ endIdOf (flowSize (q.figures expand))) = true := by
    intro w hw
    rw [← flowEdges_eq_wires _ h.2] at hw
    obtain ⟨k, -, -, hk⟩ := flowEdges_target hw
    simp [hk, nodeId_ne_endIdOf]
  rw [insideEdges, build_edges h, (build_elements q expand).2.2, List.filter_append,
    List.filter_eq_self.mpr hkept]
  simp

/-- A graph, without its start node and its end node, was drawn inside a drawing: its elements are
at the end of the innermost scope, its edges after those that there were, with the label on the
first one that the cursor told. The cursor is where it was at the end of the graph, and no type that
was known has changed. -/
structure InsertedInto (g : Graph) (last : Id) (before after : Builder) : Prop where
  scopes : ∃ scope outer, before.scopes = scope :: outer ∧
    after.scopes = { scope with
      elements := scope.elements ++ Element.renamedList before.relocate g.inside } :: outer
  edges : after.edges = before.edges ++
    Edge.labelFirst before.pending (g.insideEdges.map (Edge.renamed before.relocate))
  branching : after.branching = false
  counter : after.counter = before.counter + (declaredIds [] g.inside).length
  cursor : after.cursor = before.relocate last
  types : ∀ id type, before.types.lookup id = some type → after.types.lookup id = some type

open Builder (Drawn Fresh)

theorem InsertedInto.of_settled {q : Query} {expand : Bool} {b : Builder}
    (hq : Drawable (q.figures expand)) (hexpand : b.expandGroups = expand) (hb : b.Settled) :
    (build (some q) expand).InsertedInto (Builder.visit q (begin expand)).cursor b
      (Builder.visit q b) := by
  have hmoves := b.relocate_moves
  have hplaced := drawFlow_placed (q.figures expand) b
  obtain ⟨hdrawn, hcursor, -, hbranching⟩ := drawFlow_edges (q.figures expand) b hb.fresh
  have hvisit : Builder.visit q b = drawFlow (q.figures expand) b := by
    rw [Builder.visit_eq_drawFlow, hexpand]
  have hlast : (Builder.visit q (begin expand)).cursor =
      nodeId (lastNumber 0 (q.figures expand)) := by
    rw [Builder.visit_eq_drawFlow]
    exact (drawFlow_edges _ _ (begin_fresh expand)).cursor.trans (flowEnd_eq _ _ _ hq.1)
  rw [hvisit]
  refine ⟨?_, ?_, ?_, ?_, ?_, ?_⟩
  · obtain ⟨container, placed, outer, hscopes⟩ := hb.bottomed.exists_cons
    refine ⟨⟨container, placed⟩, outer, hscopes, ?_⟩
    rw [hplaced.scopes _ _ _ hscopes, inside_build, flowElements_renamed hmoves, Nat.zero_add]
  · rw [hdrawn.edges, flowEdges_eq_wires _ hq.2, insideEdges_build hq, flowWires_renamed hmoves,
      labelFirst_flowWires, hmoves.start, Nat.zero_add]
  · rw [hbranching, flowDangles_eq_false _ hq.2 (.inl hq.1)]
  · rw [hplaced.counter, inside_build, declaredIds_flowElements, length_nodeIds]
  · rw [hcursor, flowEnd_eq _ _ _ hq.1, hlast, hmoves.node, ← lastNumber_add, Nat.zero_add]
  · intro id type htype
    -- A type is known only of an id that has been given.
    have hspent : Builder.Spent b.counter id := by
      rintro k hk rfl
      simp [hb.fresh.type k hk] at htype
    rw [hdrawn.types id hspent, htype]

/-- A query whose pipes are complete is drawn in every drawing that is reached as it is drawn alone,
and leads to a drawing that is reached. -/
theorem inserted_of_build? {q : Query} {expand : Bool} {g : Graph} (hq : q.pipesComplete)
    (h : build? (some q) expand = .ok g) {b : Builder} (hb : Reached expand b) :
    Reached expand (Builder.visit q b) ∧
      g.InsertedInto (Builder.visit q (begin expand)).cursor b (Builder.visit q b) := by
  rw [eq_build_of_build? h]
  exact ⟨hb.visit q, .of_settled (Query.figures_drawable expand q hq) hb.expandGroups hb.settled⟩

/-- As the first argument of a call, `1 | []` is drawn as it is drawn alone. -/
theorem inserted_of_build?_argument :
    (Query.pipe (.number "1") (.array none)).pipesComplete = true ∧
    build? (some (.pipe (.number "1") (.array none))) false =
      .ok (build (some (.pipe (.number "1") (.array none))) false) ∧
    Reached false (((begin false).openContainer "f()" none none).2.startBranch (nodeId 0)) ∧
    (build (some (.pipe (.number "1") (.array none))) false).InsertedInto
      (Builder.visit (.pipe (.number "1") (.array none)) (begin false)).cursor
      (((begin false).openContainer "f()" none none).2.startBranch (nodeId 0))
      (Builder.visit (.pipe (.number "1") (.array none))
        (((begin false).openContainer "f()" none none).2.startBranch (nodeId 0))) := by
  have hcomplete : (Query.pipe (.number "1") (.array none)).pipesComplete = true := rfl
  have hbuild : build? (some (.pipe (.number "1") (.array none))) false =
      .ok (build (some (.pipe (.number "1") (.array none))) false) := rfl
  have hreached : Reached false
      (((begin false).openContainer "f()" none none).2.startBranch (nodeId 0)) :=
    (Reached.begin.opened "f()" none none).branch (.inr ⟨0, Nat.zero_lt_one, rfl⟩)
  exact ⟨hcomplete, hbuild, hreached, (inserted_of_build? hcomplete hbuild hreached).2⟩

end Graph

end JqFlow
