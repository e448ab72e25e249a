import JqFlow.Proofs.Drawing.Figure
import Mathlib.Data.List.Nodup

/-!
# The elements of a drawing

A figure is drawn as elements that are numbered in the order in which they are declared: each before
what is inside it, and an operator before its operands.

## Main definitions

- `Figure.size`, `flowSize`, `branchSize`: how many elements are drawn
- `Figure.elements`, `flowElements`, `branchElements`: the elements, from a number on

## Main statements

- `drawFlow_placed`: a flow is put at the end of the innermost scope
- `Graph.build_elements`: the elements and the ids of the graph of a query
-/

namespace JqFlow

open Builder (nodeId)

mutual

/-- The number of elements of a figure. -/
def Figure.size : Figure → Nat
  | .mark .. => 1
  | .fork _ _ operands => 1 + branchSize operands
  | .box _ _ _ branches => 1 + branchSize branches

/-- The number of elements of a flow. -/
def flowSize : List Figure → Nat
  | [] => 0
  | f :: fs => f.size + flowSize fs

/-- The number of elements of several flows. -/
def branchSize : List (List Figure) → Nat
  | [] => 0
  | flow :: flows => flowSize flow + branchSize flows

end

theorem Figure.size_pos (f : Figure) : 0 < f.size := by
  cases f <;> simp only [size] <;> omega

mutual

/-- The elements of a figure, numbered from `n`: a rectangle; an operator followed by its operands;
a container with its branches inside. -/
def Figure.elements (n : Nat) : Figure → List Element
  | .mark label _ => [.node (nodeId n) label .rectangle none]
  | .fork label _ operands =>
    .node (nodeId n) label .rectangle none :: branchElements (n + 1) operands
  | .box label detail _ branches =>
    [.container (nodeId n) label (branchElements (n + 1) branches) detail]

/-- The elements of a flow, one figure after another. -/
def flowElements (n : Nat) : List Figure → List Element
  | [] => []
  | f :: fs => f.elements n ++ flowElements (n + f.size) fs

/-- The elements of several flows, one flow after another. -/
def branchElements (n : Nat) : List (List Figure) → List Element
  | [] => []
  | flow :: flows => flowElements n flow ++ branchElements (n + flowSize flow) flows

end

/-! ### Where a drawing puts its elements -/

namespace Builder

/-- `after` has `count` more ids than `before`, and `elements` at the end of its innermost scope. -/
structure Placed (elements : List Element) (count : Nat) (before after : Builder) : Prop where
  counter : after.counter = before.counter + count
  scopes : ∀ container placed outer, before.scopes = ⟨container, placed⟩ :: outer →
    after.scopes = ⟨container, placed ++ elements⟩ :: outer

namespace Placed

theorem refl (b : Builder) : Placed [] 0 b b :=
  ⟨rfl, by intro c placed outer h; rw [h, List.append_nil]⟩

theorem trans {es es' : List Element} {k k' : Nat} {a b c : Builder} (h : Placed es k a b)
    (h' : Placed es' k' b c) : Placed (es ++ es') (k + k') a c := by
  refine ⟨by rw [h'.counter, h.counter, Nat.add_assoc], ?_⟩
  intro container placed outer hs
  rw [h'.scopes _ _ _ (h.scopes _ _ _ hs), List.append_assoc]

/-- A branch places what it draws where it began. -/
theorem of_branch {es : List Element} {k : Nat} {seed : Id} {a b : Builder}
    (h : Placed es k (a.startBranch seed) b) : Placed es k a b :=
  ⟨h.counter, h.scopes⟩

end Placed

@[simp] theorem connect_counter (source target : Id) (b : Builder) :
    (b.connect source target).counter = b.counter := by
  simp only [connect]
  split <;> rfl

@[simp] theorem connect_scopes (source target : Id) (b : Builder) :
    (b.connect source target).scopes = b.scopes := by
  simp only [connect]
  split <;> rfl

@[simp] theorem moveTo_counter (id : Id) (b : Builder) : (b.moveTo id).counter = b.counter :=
  connect_counter b.cursor id b

@[simp] theorem moveTo_scopes (id : Id) (b : Builder) : (b.moveTo id).scopes = b.scopes :=
  connect_scopes b.cursor id b

/-- Moving the cursor places nothing. -/
theorem Placed.moveTo {es : List Element} {k : Nat} {a b : Builder} (h : Placed es k a b)
    (id : Id) : Placed es k a (b.moveTo id) := by
  refine ⟨(moveTo_counter id b).trans h.counter, ?_⟩
  intro container placed outer hs
  rw [moveTo_scopes, h.scopes _ _ _ hs]

@[simp] theorem noteType_counter (id : Id) (type : Option ValueType) (b : Builder) :
    (b.noteType id type).counter = b.counter := by
  cases type <;> rfl

@[simp] theorem noteType_scopes (id : Id) (type : Option ValueType) (b : Builder) :
    (b.noteType id type).scopes = b.scopes := by
  cases type <;> rfl

@[simp] theorem file_counter (e : Element) (b : Builder) : (b.file e).counter = b.counter := by
  simp only [file]
  split <;> rfl

theorem file_scopes {e : Element} {b : Builder} {container : Option Opened}
    {placed : List Element} {outer : List Scope} (h : b.scopes = ⟨container, placed⟩ :: outer) :
    (b.file e).scopes = ⟨container, placed ++ [e]⟩ :: outer := by
  simp only [file, h]

theorem drawMark_placed (label : Text) (type : Option ValueType) (b : Builder) :
    Placed [.node (nodeId b.counter) label .rectangle none] 1 b (b.drawMark label type) := by
  refine ⟨by simp [drawMark], ?_⟩
  intro container placed outer h
  simp only [drawMark, moveTo_scopes]
  exact file_scopes (by simpa using h)

@[simp] theorem drawOpen_counter (label : Text) (detail : Option Text) (type : Option ValueType)
    (b : Builder) : (b.drawOpen label detail type).counter = b.counter + 1 := by
  simp [drawOpen]

@[simp] theorem drawOpen_scopes (label : Text) (detail : Option Text) (type : Option ValueType)
    (b : Builder) :
    (b.drawOpen label detail type).scopes =
      ⟨some ⟨nodeId b.counter, label, detail⟩, []⟩ :: b.scopes := by
  simp [drawOpen]

@[simp] theorem close_counter (b : Builder) : b.close.counter = b.counter := by
  rw [close]
  split <;> simp

theorem close_scopes {b : Builder} {c : Opened} {inside placed : List Element}
    {container : Option Opened} {outer : List Scope}
    (h : b.scopes = ⟨some c, inside⟩ :: ⟨container, placed⟩ :: outer) :
    b.close.scopes =
      ⟨container, placed ++ [.container c.id c.label inside c.detail]⟩ :: outer := by
  simp only [close, h]
  exact file_scopes rfl

/-- A container that is not refused is closed. -/
theorem close_of_closeContainer {b b' : Builder} (h : b.closeContainer = (none, b')) :
    b.close = b' := by
  rw [closeContainer] at h
  split at h
  · exact congrArg Prod.snd h
  all_goals simp at h

/-- What is placed inside a container that is then closed is placed as one element. -/
theorem Placed.close {es : List Element} {k : Nat} {b b' : Builder} {label : Text}
    {detail : Option Text} {type : Option ValueType}
    (h : Placed es k (b.drawOpen label detail type) b') :
    Placed [.container (nodeId b.counter) label es detail] (1 + k) b b'.close := by
  refine ⟨?_, ?_⟩
  · rw [close_counter, h.counter, drawOpen_counter, Nat.add_assoc]
  · intro container placed outer hs
    have inside := h.scopes _ _ _ (drawOpen_scopes label detail type b)
    rw [List.nil_append, hs] at inside
    exact close_scopes inside

end Builder

open Builder (Placed)

mutual

theorem Figure.draw_placed (f : Figure) (b : Builder) :
    Placed (f.elements b.counter) f.size b (f.draw b) := by
  cases f with
  | mark label type => exact Builder.drawMark_placed label type b
  | fork label type operands =>
    have hmark := Builder.drawMark_placed label type b
    have hoperands := drawOperands_placed operands (nodeId b.counter) (b.drawMark label type)
    rw [hmark.counter] at hoperands
    exact hmark.trans hoperands
  | box label detail type branches =>
    have inside := drawBranches_placed branches (nodeId b.counter) (b.drawOpen label detail type)
    rw [Builder.drawOpen_counter] at inside
    exact inside.close

/-- A flow is put at the end of the innermost scope. -/
theorem drawFlow_placed (fs : List Figure) (b : Builder) :
    Placed (flowElements b.counter fs) (flowSize fs) b (drawFlow fs b) := by
  cases fs with
  | nil => exact Placed.refl b
  | cons f fs =>
    have first := Figure.draw_placed f b
    have rest := drawFlow_placed fs (f.draw b)
    rw [first.counter] at rest
    exact first.trans rest

theorem drawOperands_placed (flows : List (List Figure)) (id : Id) (b : Builder) :
    Placed (branchElements b.counter flows) (branchSize flows) b (drawOperands id flows b) := by
  cases flows with
  | nil => exact Placed.refl b
  | cons flow flows =>
    have first : Placed (flowElements b.counter flow) (flowSize flow) b
        ((drawFlow flow (b.startBranch id)).moveTo id) :=
      (drawFlow_placed flow (b.startBranch id)).of_branch.moveTo id
    have rest := drawOperands_placed flows id ((drawFlow flow (b.startBranch id)).moveTo id)
    rw [first.counter] at rest
    exact first.trans rest

theorem drawBranches_placed (flows : List (List Figure)) (id : Id) (b : Builder) :
    Placed (branchElements b.counter flows) (branchSize flows) b (drawBranches id flows b) := by
  cases flows with
  | nil => exact Placed.refl b
  | cons flow flows =>
    have first : Placed (flowElements b.counter flow) (flowSize flow) b
        (drawFlow flow (b.startBranch id)) :=
      (drawFlow_placed flow (b.startBranch id)).of_branch
    have rest := drawBranches_placed flows id (drawFlow flow (b.startBranch id))
    rw [first.counter] at rest
    exact first.trans rest

end

/-! ### The ids of the elements -/

theorem Element.preorderList_append (ancestors : List Id) (es es' : List Element) :
    preorderList ancestors (es ++ es') =
      preorderList ancestors es ++ preorderList ancestors es' := by
  induction es with
  | nil => rfl
  | cons e es ih => rw [List.cons_append, preorderList, preorderList, ih, List.append_assoc]

/-- The ids of a forest, each container before what is inside it. -/
def declaredIds (ancestors : List Id) (es : List Element) : List Id :=
  (Element.preorderList ancestors es).map fun p => p.2.id

theorem declaredIds_append (ancestors : List Id) (es es' : List Element) :
    declaredIds ancestors (es ++ es') = declaredIds ancestors es ++ declaredIds ancestors es' := by
  simp only [declaredIds, Element.preorderList_append, List.map_append]

theorem declaredIds_node (ancestors : List Id) (id label : Text) (shape : Shape)
    (detail : Option Text) (es : List Element) :
    declaredIds ancestors (.node id label shape detail :: es) = id :: declaredIds ancestors es := by
  rfl

theorem declaredIds_container (ancestors : List Id) (id label : Text) (es : List Element)
    (detail : Option Text) :
    declaredIds ancestors [.container id label es detail] =
      id :: declaredIds (ancestors ++ [id]) es := by
  simp [declaredIds, Element.preorderList, Element.preorder, Element.id]

/-- The ids with the numbers from `n` on. -/
def nodeIds (n count : Nat) : List Id :=
  (List.range' n count).map nodeId

theorem nodeIds_add (n k k' : Nat) : nodeIds n (k + k') = nodeIds n k ++ nodeIds (n + k) k' := by
  simp only [nodeIds, ← List.map_append, List.range'_append_1]

theorem nodeIds_one_add (n k : Nat) : nodeIds n (1 + k) = nodeId n :: nodeIds (n + 1) k := by
  rw [nodeIds_add]
  rfl

mutual

theorem Figure.declaredIds_elements (f : Figure) (ancestors : List Id) (n : Nat) :
    declaredIds ancestors (f.elements n) = nodeIds n f.size := by
  cases f with
  | mark label type => rfl
  | fork label type operands =>
    rw [Figure.elements, declaredIds_node, declaredIds_branchElements operands, Figure.size,
      nodeIds_one_add]
  | box label detail type branches =>
    rw [Figure.elements, declaredIds_container, declaredIds_branchElements branches, Figure.size,
      nodeIds_one_add]

theorem declaredIds_flowElements (fs : List Figure) (ancestors : List Id) (n : Nat) :
    declaredIds ancestors (flowElements n fs) = nodeIds n (flowSize fs) := by
  cases fs with
  | nil => rfl
  | cons f fs =>
    rw [flowElements, declaredIds_append, Figure.declaredIds_elements f,
      declaredIds_flowElements fs, flowSize, nodeIds_add]

theorem declaredIds_branchElements (flows : List (List Figure)) (ancestors : List Id) (n : Nat) :
    declaredIds ancestors (branchElements n flows) = nodeIds n (branchSize flows) := by
  cases flows with
  | nil => rfl
  | cons flow flows =>
    rw [branchElements, declaredIds_append, declaredIds_flowElements flow,
      declaredIds_branchElements flows, branchSize, nodeIds_add]

end

/-! ### Ids are told apart by their numbers -/

theorem Text.ofNat_injective : Function.Injective Text.ofNat := by
  intro m n h
  have hdigits : Nat.toDigits 10 m = Nat.toDigits 10 n :=
    List.map_inj_right (fun _ _ hc => CodePoint.scalar.inj hc) |>.mp h
  rw [← Nat.ofDigitChars_ten_toDigits (n := m), hdigits, Nat.ofDigitChars_ten_toDigits]

theorem Builder.nodeId_injective : Function.Injective nodeId := by
  intro m n h
  exact Text.ofNat_injective (List.append_cancel_left h)

namespace Graph

/-- The id of the node at which every flow ends, after `n` numbered elements. -/
def endIdOf (n : Nat) : Id := "end_" ++ Text.ofNat n

/-- The node at which every flow begins. -/
def startNode : Element := .node startId "Start" .circle none

/-- The node at which every flow ends, after `n` numbered elements. -/
def endNode (n : Nat) : Element := .node (endIdOf n) "End" .circle none

theorem nodeId_ne_startId (n : Nat) : nodeId n ≠ startId := by
  intro h
  have := congrArg List.head? h
  simp [nodeId, startId, Text.ofString] at this

theorem nodeId_ne_endIdOf (m n : Nat) : nodeId m ≠ endIdOf n := by
  intro h
  have := congrArg List.head? h
  simp [nodeId, endIdOf, Text.ofString] at this

theorem startId_ne_endIdOf (n : Nat) : startId ≠ endIdOf n := by
  intro h
  have := congrArg List.head? h
  simp [startId, endIdOf, Text.ofString] at this

theorem build_some (q : Query) (expand : Bool) :
    build (some q) expand = finish (drawFlow (q.figures expand) (begin expand)) := by
  rw [build, Builder.visitOption, Builder.visit_eq_drawFlow]
  rfl

/-- The drawing to which the end node has been connected. -/
def ended (b : Builder) : Builder :=
  let closed := b.file (endNode b.counter)
  if closed.cursor = startId then closed else closed.connect closed.cursor (endIdOf b.counter)

theorem finish_eq (b : Builder) :
    finish b =
      ⟨((ended b).scopes.getLast?.map Scope.elements).getD [], (ended b).edges,
        endIdOf b.counter⟩ := by
  rfl

theorem finish_elements {b : Builder} {es : List Element} (h : b.scopes = [⟨none, es⟩]) :
    (finish b).elements = es ++ [endNode b.counter] := by
  have hscopes : (ended b).scopes = [⟨none, es ++ [endNode b.counter]⟩] := by
    simp only [ended]
    split
    · exact Builder.file_scopes h
    · rw [Builder.connect_scopes, Builder.file_scopes h]
  rw [finish_eq, hscopes]
  rfl

/-- The elements of the graph of a query, and the order in which their ids are declared. -/
theorem build_elements (q : Query) (expand : Bool) :
    (build (some q) expand).elements =
        startNode :: flowElements 0 (q.figures expand) ++ [endNode (flowSize (q.figures expand))] ∧
      (build (some q) expand).ids =
        startId :: nodeIds 0 (flowSize (q.figures expand)) ++
          [endIdOf (flowSize (q.figures expand))] ∧
      (build (some q) expand).endId = endIdOf (flowSize (q.figures expand)) := by
  have hplaced := drawFlow_placed (q.figures expand) (begin expand)
  have hcounter := hplaced.counter
  have hscopes := hplaced.scopes none [startNode] [] rfl
  rw [show (begin expand).counter = 0 from rfl, Nat.zero_add] at hcounter
  have helements : (build (some q) expand).elements =
      startNode :: flowElements 0 (q.figures expand) ++ [endNode (flowSize (q.figures expand))] := by
    rw [build_some, finish_elements hscopes, hcounter]
    rfl
  refine ⟨helements, ?_, ?_⟩
  · have hids : (build (some q) expand).ids =
        declaredIds [] (build (some q) expand).elements := by
      rw [ids, nodes, walk_eq_preorder, declaredIds, List.map_map]
      rfl
    rw [hids, helements, startNode, endNode, List.cons_append, declaredIds_node,
      declaredIds_append, declaredIds_flowElements, declaredIds_node]
    rfl
  · rw [build_some, finish_eq, hcounter]

theorem nodeIds_nodup (n count : Nat) : (nodeIds n count).Nodup := by
  have hrange : (List.range' n count).Nodup := List.nodup_range'
  exact hrange.map Builder.nodeId_injective

theorem declared_nodup (n : Nat) : (startId :: nodeIds 0 n ++ [endIdOf n]).Nodup := by
  have hstart : startId ∉ nodeIds 0 n := by
    intro h
    obtain ⟨k, -, hk⟩ := List.mem_map.mp h
    exact nodeId_ne_startId k hk
  have hend : endIdOf n ∉ startId :: nodeIds 0 n := by
    intro h
    rcases List.mem_cons.mp h with h | h
    · exact startId_ne_endIdOf n h.symm
    · obtain ⟨k, -, hk⟩ := List.mem_map.mp h
      exact nodeId_ne_endIdOf k n hk
  refine List.nodup_append.mpr ⟨List.nodup_cons.mpr ⟨hstart, nodeIds_nodup 0 n⟩, by simp, ?_⟩
  intro a ha b hb hab
  rw [List.mem_singleton.mp hb] at hab
  exact hend (hab ▸ ha)

/-- In a list without repetitions every place is that of its element. -/
theorem idxOf_of_getElem? {ids : List Id} (h : ids.Nodup) {k : Nat} {id : Id}
    (hk : ids[k]? = some id) : ids.idxOf id = k := by
  obtain ⟨hlt, rfl⟩ := List.getElem?_eq_some_iff.mp hk
  exact h.idxOf_getElem k hlt

theorem eq_build_of_build? {q : Option Query} {expand : Bool} {g : Graph}
    (h : build? q expand = .ok g) : g = build q expand := by
  rw [build?] at h
  split at h
  · exact absurd h (by simp)
  · exact (Except.ok.inj h).symm

/-- The graph of a query has the start node, the elements of its flow and the end node, in this
order; their ids are declared in the order of their numbers and each of them once. -/
theorem elements_of_build? {q : Query} {expand : Bool} {g : Graph}
    (h : build? (some q) expand = .ok g) :
    g.elements =
        startNode :: flowElements 0 (q.figures expand) ++ [endNode (flowSize (q.figures expand))] ∧
      g.ids =
        startId :: nodeIds 0 (flowSize (q.figures expand)) ++
          [endIdOf (flowSize (q.figures expand))] ∧
      g.endId = endIdOf (flowSize (q.figures expand)) ∧
      g.ids.Nodup := by
  obtain ⟨helements, hids, hend⟩ := build_elements q expand
  rw [eq_build_of_build? h]
  exact ⟨helements, hids, hend, hids ▸ declared_nodup _⟩

/-- In the graph of `f((. | []); 1 + -null)` the ids run on through the branches of the call. -/
theorem elements_of_build?_call :
    build? (some (.call "f" [.group (.pipe .identity (.array none)),
        .binary .add (.number "1") (.unary "-" .null)])) false =
      .ok (build (some (.call "f" [.group (.pipe .identity (.array none)),
        .binary .add (.number "1") (.unary "-" .null)])) false) ∧
    (build (some (.call "f" [.group (.pipe .identity (.array none)),
        .binary .add (.number "1") (.unary "-" .null)])) false).ids =
      ["start", "node_0", "node_1", "node_2", "node_3", "node_4", "node_5", "node_6",
        "end_7"].map Text.ofString := by
  have hbuild : build? (some (.call "f" [.group (.pipe .identity (.array none)),
        .binary .add (.number "1") (.unary "-" .null)])) false =
      .ok (build (some (.call "f" [.group (.pipe .identity (.array none)),
        .binary .add (.number "1") (.unary "-" .null)])) false) := rfl
  obtain ⟨-, hids, -⟩ := elements_of_build? hbuild
  exact ⟨hbuild, hids.trans (by decide)⟩

end Graph
end JqFlow
