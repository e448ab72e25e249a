import JqFlow.Proofs.Drawing.Simple
import JqFlow.Proofs.Drawing.Wires
import Mathlib.Logic.Relation

/-!
# The spanning tree of a drawing

The edges of the graph of a query are of two kinds. Those that lead from an element to one declared
later form a tree that spans the graph. The others lead from the element on which an operand ends
back to its operator, one for each operand.

## Main definitions

- `Operand`, `flowOperands`: the operands that are drawn, each with its operator
- `Graph.isForward`: does an edge lead to an element that is declared later?

## Main statements

- `Graph.spans_of_build?`: which edges the graph of a query has
-/

namespace JqFlow

open Builder (nodeId nodeId_injective)

/-- An operand that is drawn: the number of its operator, its own first number and its flow. -/
structure Operand where
  operator : Nat
  first : Nat
  flow : List Figure

mutual

/-- The operands in a figure that is numbered from `n`. -/
def Figure.operands (n : Nat) : Figure → List Operand
  | .mark .. => []
  | .fork _ _ flows => operandsOf n (n + 1) flows
  | .box _ _ _ branches => branchOperands (n + 1) branches

/-- The operands in a flow. -/
def flowOperands (n : Nat) : List Figure → List Operand
  | [] => []
  | f :: fs => f.operands n ++ flowOperands (n + f.size) fs

/-- The operands of an operator, each after those inside it. -/
def operandsOf (operator n : Nat) : List (List Figure) → List Operand
  | [] => []
  | flow :: flows =>
    flowOperands n flow ++ ⟨operator, n, flow⟩ :: operandsOf operator (n + flowSize flow) flows

/-- The operands in several branches. -/
def branchOperands (n : Nat) : List (List Figure) → List Operand
  | [] => []
  | flow :: flows => flowOperands n flow ++ branchOperands (n + flowSize flow) flows

end

/-- The ids of the figures of a flow itself: what is drawn for the operands of an operator, or inside
a container, is a level below. -/
def flowTops (n : Nat) : List Figure → List Id
  | [] => []
  | f :: fs => nodeId n :: flowTops (n + f.size) fs

theorem flowTops_getLast? (fs : List Figure) (n : Nat) (h : fs ≠ []) :
    (flowTops n fs).getLast? = some (nodeId (lastNumber n fs)) := by
  induction fs generalizing n with
  | nil => exact absurd rfl h
  | cons f fs ih =>
    cases fs with
    | nil => rfl
    | cons g gs =>
      have hlast := ih (n + f.size) (by simp)
      rw [flowTops, lastNumber, ← hlast]
      · rfl
      · simp

/-- Does an edge lead from the last top-level element drawn for an operand back to its operator? -/
def Operand.IsWayBack (w : Edge) (o : Operand) : Prop :=
  (flowTops o.first o.flow).getLast? = some w.source ∧ w.target = nodeId o.operator

/-! ### The two kinds of wires -/

section Kinds

variable (rank : Id → Nat)

/-- Wires of which those that lead to a higher rank have the given targets, in order, and the others
are the ways back from the given operands, in order. -/
structure Sorted (ws : List Edge) (targets : List Id) (operands : List Operand) : Prop where
  forward : (ws.filter fun w => rank w.source < rank w.target).map Edge.target = targets
  backward : List.Forall₂ Operand.IsWayBack
    (ws.filter fun w => ¬rank w.source < rank w.target) operands

namespace Sorted

variable {rank}

theorem nil : Sorted rank [] [] [] :=
  ⟨rfl, .nil⟩

theorem append {ws ws' : List Edge} {ts ts' : List Id} {os os' : List Operand}
    (h : Sorted rank ws ts os) (h' : Sorted rank ws' ts' os') :
    Sorted rank (ws ++ ws') (ts ++ ts') (os ++ os') := by
  refine ⟨?_, ?_⟩
  · rw [List.filter_append, List.map_append, h.forward, h'.forward]
  · rw [List.filter_append]
    exact List.rel_append h.backward h'.backward

theorem cons_forward {w : Edge} {ws : List Edge} {ts : List Id} {os : List Operand}
    (hw : rank w.source < rank w.target) (h : Sorted rank ws ts os) :
    Sorted rank (w :: ws) (w.target :: ts) os := by
  refine ⟨?_, ?_⟩
  · simp [hw, h.forward]
  · simpa [hw] using h.backward

theorem cons_backward {w : Edge} {ws : List Edge} {ts : List Id} {o : Operand} {os : List Operand}
    (hw : ¬rank w.source < rank w.target) (ho : o.IsWayBack w) (h : Sorted rank ws ts os) :
    Sorted rank (w :: ws) ts (o :: os) := by
  refine ⟨?_, ?_⟩
  · simpa [hw] using h.forward
  · rw [List.filter_cons_of_pos (by simpa using hw)]
    exact .cons ho h.backward

end Sorted

variable {rank} {total : Nat} (hrank : ∀ k < total, rank (nodeId k) = k + 1)

include hrank

mutual

theorem Figure.wires_sorted (f : Figure) (hf : f.Solid) (source : Id) (label : Option Text)
    (n : Nat) (hsource : rank source ≤ n) (htotal : n + f.size ≤ total) :
    Sorted rank (f.wires source label n) (nodeIds n f.size)
      (f.operands n) := by
  cases f with
  | mark =>
    rw [Figure.size] at htotal
    exact .cons_forward (by rw [hrank n (by omega)]; simpa using Nat.lt_succ_of_le hsource) .nil
  | fork _ _ operands =>
    rw [Figure.size] at htotal ⊢
    rw [nodeIds_one_add]
    refine .cons_forward (by rw [hrank n (by omega)]; simpa using Nat.lt_succ_of_le hsource) ?_
    exact operandWires_sorted operands hf n (n + 1) (by omega) (by omega)
  | box _ _ _ branches =>
    rw [Figure.size] at htotal ⊢
    rw [nodeIds_one_add]
    refine .cons_forward (by rw [hrank n (by omega)]; simpa using Nat.lt_succ_of_le hsource) ?_
    exact branchWires_sorted branches hf n (n + 1) (by omega) (by omega)

theorem flowWires_sorted (fs : List Figure) (hfs : SolidFlow fs) (source : Id)
    (label : Option Text) (n : Nat) (hsource : rank source ≤ n)
    (htotal : n + flowSize fs ≤ total) :
    Sorted rank (flowWires source label n fs) (nodeIds n (flowSize fs))
      (flowOperands n fs) := by
  cases fs with
  | nil => exact .nil
  | cons f fs =>
    rw [flowSize] at htotal ⊢
    have hsize := f.size_pos
    rw [nodeIds_add, flowOperands]
    refine (Figure.wires_sorted f hfs.1 source label n hsource (by omega)).append ?_
    refine flowWires_sorted fs hfs.2 (nodeId n) f.typeName (n + f.size) ?_ (by omega)
    rw [hrank n (by omega)]
    omega

theorem operandWires_sorted (flows : List (List Figure)) (hflows : SolidBranches flows)
    (operator n : Nat) (hlt : operator < n) (htotal : n + branchSize flows ≤ total) :
    Sorted rank (operandWires (nodeId operator) n flows) (nodeIds n (branchSize flows))
      (operandsOf operator n flows) := by
  match flows, hflows with
  | [], _ => exact .nil
  | flow :: flows, hflows =>
    obtain ⟨hne, hflow, hrest⟩ := hflows
    rw [branchSize] at htotal ⊢
    have hlast := lastNumber_lt flow n hne
    rw [nodeIds_add, operandsOf]
    refine (flowWires_sorted flow hflow _ none n ?_ (by omega)).append ?_
    · rw [hrank operator (by omega)]
      omega
    · refine .cons_backward ?_ ⟨flowTops_getLast? flow n hne, rfl⟩
        (operandWires_sorted flows hrest operator _ (by omega) (by omega))
      show ¬rank (nodeId (lastNumber n flow)) < rank (nodeId operator)
      rw [hrank _ (by omega), hrank operator (by omega)]
      omega

theorem branchWires_sorted (flows : List (List Figure)) (hflows : SolidBranches flows)
    (box n : Nat) (hlt : box < n) (htotal : n + branchSize flows ≤ total) :
    Sorted rank (branchWires (nodeId box) n flows) (nodeIds n (branchSize flows))
      (branchOperands n flows) := by
  match flows, hflows with
  | [], _ => exact .nil
  | flow :: flows, hflows =>
    obtain ⟨-, hflow, hrest⟩ := hflows
    rw [branchSize] at htotal ⊢
    rw [nodeIds_add, branchOperands]
    refine (flowWires_sorted flow hflow _ none n ?_ (by omega)).append
      (branchWires_sorted flows hrest box _ (by omega) (by omega))
    rw [hrank box (by omega)]
    omega

end

end Kinds

/-! ### The edges of the graph of a query -/

namespace Graph

/-- The wires of the flow, and the edge to the end node. -/
theorem build_edges {q : Query} {expand : Bool} (h : Drawable (q.figures expand)) :
    (build (some q) expand).edges =
      flowWires startId none 0 (q.figures expand) ++
        [⟨nodeId (lastNumber 0 (q.figures expand)), endIdOf (flowSize (q.figures expand)),
          (lastType (q.figures expand)).map ValueType.name⟩] := by
  rw [edges_build, flowEdges_eq_wires _ h.2, exitEdges_eq h.2 h.1]

/-- Does an edge lead to an element that is declared later than its source? -/
def isForward (g : Graph) (w : Edge) : Bool :=
  g.ids.idxOf w.source < g.ids.idxOf w.target

theorem size_eq_length_ids (g : Graph) : g.size = g.ids.length := by
  simp [size, ids, nodes]

/-- Is there a way along edges from one element to another? -/
def Reaches (g : Graph) : Id → Id → Prop :=
  Relation.ReflTransGen fun source target => (source, target) ∈ g.edgePairs

/-- The edges are those of a tree that spans the graph from its start node, and one edge for each of
the given operands, on which its branch converges with its operator. -/
structure SpansWith (g : Graph) (operands : List Operand) : Prop where
  entered : ∀ id ∈ g.ids, id ≠ startId →
    (g.edges.countP fun w => w.target = id ∧ g.isForward w) = 1
  reached : ∀ id ∈ g.ids, g.Reaches startId id
  converging : List.Forall₂ Operand.IsWayBack (g.edges.filter fun w => !g.isForward w) operands
  nodup : g.edgePairs.Nodup
  loopless : ∀ w ∈ g.edges, w.source ≠ w.target
  count : g.edges.length = g.size - 1 + operands.length

/-- The places of the ids of the graph of a query in the order of declaration. -/
theorem declared_idxOf (n : Nat) :
    (startId :: nodeIds 0 n ++ [endIdOf n]).idxOf startId = 0 ∧
      (∀ k < n, (startId :: nodeIds 0 n ++ [endIdOf n]).idxOf (nodeId k) = k + 1) ∧
      (startId :: nodeIds 0 n ++ [endIdOf n]).idxOf (endIdOf n) = n + 1 := by
  have hnodup := declared_nodup n
  refine ⟨idxOf_of_getElem? hnodup (by simp), ?_, idxOf_of_getElem? hnodup (by simp [nodeIds])⟩
  intro k hk
  exact idxOf_of_getElem? hnodup (by simp [nodeIds, List.getElem?_append, hk])

/-- If each element but the start node is entered from an earlier one, then all can be reached. -/
theorem reaches_of_entered {g : Graph} (h : ∀ id ∈ g.ids, id ≠ startId →
    ∃ w ∈ g.edges, w.target = id ∧ g.isForward w) :
    ∀ id ∈ g.ids, g.Reaches startId id := by
  -- By induction on the place of the element in the order of declaration.
  intro id hid
  induction hk : g.ids.idxOf id using Nat.strongRecOn generalizing id with
  | ind k ih =>
    by_cases hstart : id = startId
    · rw [hstart]
      exact .refl
    · obtain ⟨w, hw, rfl, hforward⟩ := h id hid hstart
      have hlt : g.ids.idxOf w.source < g.ids.idxOf w.target := of_decide_eq_true hforward
      have hsource : w.source ∈ g.ids :=
        List.idxOf_lt_length_iff.mp (Nat.lt_trans hlt (List.idxOf_lt_length_iff.mpr hid))
      refine (ih _ (hk ▸ hlt) w.source hsource rfl).tail ?_
      exact List.mem_map.mpr ⟨w, hw, rfl⟩

/-- The edges of the graph of a query, told apart by the order of declaration. -/
theorem build_sorted {q : Query} {expand : Bool} (h : Drawable (q.figures expand)) :
    Sorted (build (some q) expand).ids.idxOf (build (some q) expand).edges
      (nodeIds 0 (flowSize (q.figures expand)) ++ [endIdOf (flowSize (q.figures expand))])
      (flowOperands 0 (q.figures expand)) := by
  obtain ⟨-, hids, -⟩ := build_elements q expand
  obtain ⟨hstart, hnode, hend⟩ := declared_idxOf (flowSize (q.figures expand))
  have hlast := lastNumber_lt (q.figures expand) 0 h.1
  rw [build_edges h, hids, ← List.append_nil (flowOperands 0 _)]
  refine (flowWires_sorted hnode _ h.2 startId none 0 (by omega) (by omega)).append ?_
  refine .cons_forward ?_ .nil
  show List.idxOf (nodeId _) _ < List.idxOf (endIdOf _) _
  rw [hnode _ (by omega), hend]
  omega

/-- The edges of the graph of a query whose pipes have both sides are a spanning tree and the ways
back from the operands. A way back leaves the last element that an operand has on the top level of what
is drawn for it; for an operand that is an operator this is its operator node. -/
theorem spans_of_build? {q : Query} {expand : Bool} {g : Graph} (hq : q.pipesComplete)
    (h : build? (some q) expand = .ok g) :
    g.SpansWith (flowOperands 0 (q.figures expand)) := by
  have hdrawable := Query.figures_drawable expand q hq
  have hsorted := build_sorted hdrawable
  obtain ⟨-, hids, -⟩ := build_elements q expand
  obtain ⟨hnodup, hloopless⟩ := build_simple q expand
  rw [← eq_build_of_build? h] at hsorted hids hnodup hloopless
  have hforward : ((g.edges.filter g.isForward).map Edge.target) =
      nodeIds 0 (flowSize (q.figures expand)) ++ [endIdOf (flowSize (q.figures expand))] :=
    hsorted.forward
  have hconverging : List.Forall₂ Operand.IsWayBack (g.edges.filter fun w => !g.isForward w)
      (flowOperands 0 (q.figures expand)) := by
    simpa only [isForward, ← decide_not] using hsorted.backward
  have hentered : ∀ id ∈ g.ids, id ≠ startId →
      (g.edges.countP fun w => w.target = id ∧ g.isForward w) = 1 := by
    intro id hid hstart
    have hnodup : (nodeIds 0 (flowSize (q.figures expand)) ++
        [endIdOf (flowSize (q.figures expand))]).Nodup :=
      (List.nodup_cons.mp (declared_nodup _)).2
    have hmem : id ∈ nodeIds 0 (flowSize (q.figures expand)) ++
        [endIdOf (flowSize (q.figures expand))] := by
      rw [hids] at hid
      exact List.mem_of_ne_of_mem hstart hid
    have hcount := List.count_eq_one_of_mem hnodup hmem
    rw [← hforward, List.count, List.countP_map, List.countP_filter] at hcount
    rw [← hcount]
    refine List.countP_congr ?_
    intro w _
    simp
  refine ⟨hentered, reaches_of_entered ?_, hconverging, hnodup, hloopless, ?_⟩
  · intro id hid hstart
    have hpos : 0 < g.edges.countP fun w => w.target = id ∧ g.isForward w := by
      rw [hentered id hid hstart]
      exact Nat.one_pos
    obtain ⟨w, hw, hwith⟩ := List.countP_pos_iff.mp hpos
    exact ⟨w, hw, of_decide_eq_true hwith⟩
  · have hsize : g.size = flowSize (q.figures expand) + 2 := by
      simp [size_eq_length_ids, hids, nodeIds]
    have htree := congrArg List.length hforward
    have hback := hconverging.length_eq
    have hsplit := List.length_eq_length_filter_add (l := g.edges) g.isForward
    simp only [List.length_map, List.length_append, nodeIds, List.length_range',
      List.length_singleton] at htree
    omega

/-- In the graph of `1 + -null | f([])` three edges converge, from the operands of `+` and of `-`. -/
theorem spans_of_build?_pipe :
    (Query.pipe (.binary .add (.number "1") (.unary "-" .null))
        (.call "f" [.array none])).pipesComplete ∧
    build? (some (.pipe (.binary .add (.number "1") (.unary "-" .null))
        (.call "f" [.array none]))) false =
      .ok (build (some (.pipe (.binary .add (.number "1") (.unary "-" .null))
        (.call "f" [.array none]))) false) ∧
    (build (some (.pipe (.binary .add (.number "1") (.unary "-" .null))
        (.call "f" [.array none]))) false).edges.length = 8 - 1 + 3 := by
  have hcomplete : (Query.pipe (.binary .add (.number "1") (.unary "-" .null))
        (.call "f" [.array none])).pipesComplete := by decide
  have hbuild : build? (some (.pipe (.binary .add (.number "1") (.unary "-" .null))
        (.call "f" [.array none]))) false =
      .ok (build (some (.pipe (.binary .add (.number "1") (.unary "-" .null))
        (.call "f" [.array none]))) false) := rfl
  have hspans := spans_of_build? hcomplete hbuild
  refine ⟨hcomplete, hbuild, hspans.count.trans ?_⟩
  rw [size_eq_length_ids, (build_elements _ _).2.1]
  decide

end Graph
end JqFlow
