import JqFlow.Graph.Basic
import Mathlib.Data.List.Lex

/-!
# The walk over a graph, turn by turn

A walk takes the elements of a forest from a stack: the one on top is met, and its children are put
on the stack, the last one first. However deep the forest is, the stack is empty after as many turns
as the forest has elements, and what was met until then is the preorder of the forest. Positions say
which element was met when, also where elements look alike: they are met in the order of their
positions, each position once.

## Main definitions

- `Traversal`, `Traversal.turn?`, `Traversal.turns?`: the stack and what was met, and the turns
- `Traversal.rest`: what is still to be met
- `Element.descend?`, `Graph.atPosition?`: what stands at a position
- `Element.positions`, `Graph.positions`: all positions

## Main statements

- `Traversal.rest_of_turn?`: a turn meets the first of what is still to be met
- `Traversal.map_met_turns?`: what was met after so many turns
- `Graph.positions_pairwise`, `Graph.mem_positions_iff`: positions are in order, and none is missing
- `Graph.walk_map_some`: the walk meets what stands at the positions, in order
- `Graph.walk_traverses`: all of it together
-/

namespace JqFlow

/-! ### Positions -/

namespace Element

mutual

/-- The positions of the elements of a tree, seen from its root: the indices of the children on the
way down. -/
def positions : Element → List (List Nat)
  | node .. => [[]]
  | container _ _ children _ => [] :: positionsFrom 0 children

/-- The positions of the elements of a forest whose first tree has the given index. -/
def positionsFrom (i : Nat) : List Element → List (List Nat)
  | [] => []
  | e :: es => (positions e).map (i :: ·) ++ positionsFrom (i + 1) es

end

/-- What stands at a position of a tree, with the ids of the containers around it. -/
def descend? (outer : List Id) (e : Element) : List Nat → Option (List Id × Element)
  | [] => some (outer, e)
  | i :: p => e.children[i]?.bind fun child => descend? (outer ++ [e.id]) child p

/-- What stands at a position of a forest. -/
def descendList? (outer : List Id) (es : List Element) : List Nat → Option (List Id × Element)
  | [] => none
  | i :: p => es[i]?.bind fun e => descend? outer e p

theorem positions_eq_cons (e : Element) : e.positions = [] :: positionsFrom 0 e.children := by
  cases e <;> rfl

theorem mem_positionsFrom_iff {es : List Element} {i : Nat} {p : List Nat} :
    p ∈ positionsFrom i es ↔ ∃ j e q, es[j]? = some e ∧ p = (i + j) :: q ∧ q ∈ e.positions := by
  induction es generalizing i with
  | nil => simp [positionsFrom]
  | cons e es ih =>
    rw [positionsFrom, List.mem_append, List.mem_map, ih]
    constructor
    · rintro (⟨q, hq, rfl⟩ | ⟨j, e', q, he', rfl, hq⟩)
      · exact ⟨0, e, q, rfl, rfl, hq⟩
      · exact ⟨j + 1, e', q, he', by rw [Nat.add_right_comm, Nat.add_assoc], hq⟩
    · rintro ⟨j, e', q, he', rfl, hq⟩
      cases j with
      | zero => exact .inl ⟨q, Option.some.inj he' ▸ hq, rfl⟩
      | succ j => exact .inr ⟨j, e', q, he', by rw [Nat.add_right_comm, Nat.add_assoc], hq⟩

theorem cons_mem_positionsFrom_iff {es : List Element} {i : Nat} {p : List Nat} :
    i :: p ∈ positionsFrom 0 es ↔ ∃ e, es[i]? = some e ∧ p ∈ e.positions := by
  rw [mem_positionsFrom_iff]
  constructor
  · rintro ⟨j, e, q, he, hp, hq⟩
    obtain ⟨rfl, rfl⟩ := List.cons.inj hp
    exact ⟨e, by rwa [Nat.zero_add], hq⟩
  · rintro ⟨e, he, hp⟩
    exact ⟨i, e, p, he, by rw [Nat.zero_add], hp⟩

/-- The positions of a tree are those at which something stands. -/
theorem mem_positions_iff (e : Element) (outer : List Id) (p : List Nat) :
    p ∈ e.positions ↔ (e.descend? outer p).isSome := by
  induction p generalizing e outer with
  | nil => simp [positions_eq_cons, descend?]
  | cons i p ih =>
    rw [positions_eq_cons, List.mem_cons, or_iff_right (List.cons_ne_nil i p),
      cons_mem_positionsFrom_iff, descend?]
    cases e.children[i]? with
    | none => simp
    | some child => simp [ih child (outer ++ [e.id])]

/-- The positions of a forest are those at which something stands. -/
theorem mem_positionsFrom_zero_iff (es : List Element) (outer : List Id) (p : List Nat) :
    p ∈ positionsFrom 0 es ↔ (descendList? outer es p).isSome := by
  cases p with
  | nil => simp [mem_positionsFrom_iff, descendList?]
  | cons i p =>
    rw [cons_mem_positionsFrom_iff, descendList?]
    cases es[i]? with
    | none => simp
    | some e => simp [mem_positions_iff e outer]

mutual

/-- The positions of a tree are in order, each one once. -/
theorem positions_pairwise (e : Element) : e.positions.Pairwise (· < ·) := by
  cases e with
  | node => exact List.pairwise_singleton _ _
  | container id label children detail =>
    refine List.pairwise_cons.mpr ⟨fun p hp => ?_, positionsFrom_pairwise 0 children⟩
    obtain ⟨j, e, q, -, rfl, -⟩ := mem_positionsFrom_iff.mp hp
    exact List.nil_lt_cons _ _

/-- The positions of a forest are in order, each one once. -/
theorem positionsFrom_pairwise (i : Nat) (es : List Element) :
    (positionsFrom i es).Pairwise (· < ·) := by
  cases es with
  | nil => exact .nil
  | cons e es =>
    refine List.pairwise_append.mpr ⟨?_, positionsFrom_pairwise (i + 1) es, ?_⟩
    · exact (positions_pairwise e).map _ fun _ _ h => List.cons_lt_cons_iff.mpr (.inr ⟨rfl, h⟩)
    · intro p hp p' hp'
      obtain ⟨q, -, rfl⟩ := List.mem_map.mp hp
      obtain ⟨j, e', q', -, rfl, -⟩ := mem_positionsFrom_iff.mp hp'
      exact List.cons_lt_cons_iff.mpr (.inl (by omega))

end

mutual

/-- The preorder of a tree meets what stands at its positions, in order. -/
theorem preorder_map_some (e : Element) (outer : List Id) :
    (e.preorder outer).map some = e.positions.map (e.descend? outer) := by
  cases e with
  | node => rfl
  | container id label children detail =>
    rw [preorder, positions, List.map_cons, List.map_cons,
      preorderList_map_some children (outer ++ [id]) List.drop_zero]
    refine congrArg (_ :: ·) (List.map_congr_left fun p hp => ?_)
    obtain ⟨j, e, q, -, rfl, -⟩ := mem_positionsFrom_iff.mp hp
    rfl

/-- The preorder of a forest from one of its trees on. -/
theorem preorderList_map_some {all : List Element} {i : Nat} (es : List Element) (outer : List Id)
    (h : all.drop i = es) :
    (preorderList outer es).map some = (positionsFrom i es).map (descendList? outer all) := by
  cases es with
  | nil => rfl
  | cons e es =>
    have hhead : all[i]? = some e := by rw [← List.head?_drop, h, List.head?_cons]
    have htail : all.drop (i + 1) = es := by rw [← List.tail_drop, h, List.tail_cons]
    rw [preorderList, positionsFrom, List.map_append, List.map_append, preorder_map_some e outer,
      preorderList_map_some es outer htail, List.map_map]
    refine congrArg (· ++ _) (List.map_congr_left fun p _ => ?_)
    rw [Function.comp_apply, descendList?, hhead, Option.bind_some]

end

end Element

/-! ### The length of the walk -/

namespace Graph

theorem length_walkFrom (pending : List (List Id × Element)) :
    (walkFrom pending).length = pendingSize pending := by
  fun_induction walkFrom pending with
  | case1 => rfl
  | case2 ancestors e rest ih =>
    rw [List.length_cons, ih, pendingSize_append, pendingSize, ← pendingSize_within ancestors e]
    omega

theorem walkFrom_eq_nil_iff {pending : List (List Id × Element)} :
    walkFrom pending = [] ↔ pending = [] := by
  cases pending with
  | nil => simp [walkFrom]
  | cons p pending =>
    obtain ⟨ancestors, e⟩ := p
    simp [walkFrom]

theorem length_walk (g : Graph) : g.walk.length = Element.sizeList g.elements := by
  rw [walk, length_walkFrom, pendingSize_map]

end Graph

/-! ### The turns of the walk -/

/-- A walk between two turns: what is still to be visited, the next of it last, and what was met. -/
structure Traversal where
  stack : List (List Id × Element)
  met : List (List Id × Element)

namespace Traversal

/-- The walk over a graph before its first turn: the first tree is on top of the stack. -/
def start (g : Graph) : Traversal :=
  ⟨(g.elements.map fun e => ([], e)).reverse, []⟩

/-- One turn: what is on top of the stack is met, and its children are put on the stack with the
first one on top. There is no turn if the stack is empty. -/
def turn? (t : Traversal) : Option Traversal :=
  t.stack.getLast?.map fun (ancestors, e) =>
    ⟨t.stack.dropLast ++ (Graph.within ancestors e).reverse, t.met ++ [(ancestors, e)]⟩

/-- So many turns one after another. -/
def turns? : Nat → Traversal → Option Traversal
  | 0, t => some t
  | n + 1, t => t.turn?.bind (turns? n)

/-- What is still to be met: what a walk finds that has the top of the stack first. -/
def rest (t : Traversal) : List (List Id × Element) :=
  Graph.walkFrom t.stack.reverse

variable {t t' : Traversal}

theorem rest_start (g : Graph) : (start g).rest = g.walk := by
  rw [rest, start, List.reverse_reverse, Graph.walk]

/-- There is no turn if and only if nothing is left to be met. -/
theorem turn?_eq_none_iff : t.turn? = none ↔ t.rest = [] := by
  rw [turn?, Option.map_eq_none_iff, List.getLast?_eq_none_iff, rest, Graph.walkFrom_eq_nil_iff,
    List.reverse_eq_nil_iff]

/-- A turn meets the first of what is still to be met. -/
theorem rest_of_turn? (h : t.turn? = some t') :
    ∃ p, t.rest = p :: t'.rest ∧ t'.met = t.met ++ [p] := by
  obtain ⟨⟨ancestors, e⟩, htop, rfl⟩ := Option.map_eq_some_iff.mp h
  obtain ⟨below, hbelow⟩ := List.getLast?_eq_some_iff.mp htop
  refine ⟨(ancestors, e), ?_, rfl⟩
  rw [rest, rest, hbelow, List.dropLast_concat, List.reverse_concat, Graph.walkFrom,
    List.reverse_append, List.reverse_reverse]

/-- What was met after so many turns. There are as many turns as there is left to be met. -/
theorem map_met_turns? (n : Nat) (t : Traversal) :
    (t.turns? n).map met = if n ≤ t.rest.length then some (t.met ++ t.rest.take n) else none := by
  induction n generalizing t with
  | zero => simp [turns?]
  | succ n ih =>
    cases hturn : t.turn? with
    | none =>
      rw [turns?, hturn, turn?_eq_none_iff.mp hturn]
      rfl
    | some t' =>
      obtain ⟨p, hrest, hmet⟩ := rest_of_turn? hturn
      rw [turns?, hturn, Option.bind_some, ih, hrest, hmet, List.length_cons, List.take_succ_cons,
        List.append_assoc, List.singleton_append]
      exact if_congr Nat.succ_le_succ_iff.symm rfl rfl

end Traversal

/-! ### The walk -/

namespace Graph

variable {g : Graph}

/-- The positions of the elements of a graph. -/
def positions (g : Graph) : List (List Nat) :=
  Element.positionsFrom 0 g.elements

/-- What stands at a position of a graph: the index of a tree, and the indices of the children on
the way down. -/
def atPosition? (g : Graph) : List Nat → Option (List Id × Element) :=
  Element.descendList? [] g.elements

theorem positions_pairwise (g : Graph) : g.positions.Pairwise (· < ·) :=
  Element.positionsFrom_pairwise 0 g.elements

theorem mem_positions_iff {p : List Nat} : p ∈ g.positions ↔ (g.atPosition? p).isSome :=
  Element.mem_positionsFrom_zero_iff g.elements [] p

/-- The walk meets what stands at the positions, in order. -/
theorem walk_map_some (g : Graph) : g.walk.map some = g.positions.map g.atPosition? := by
  rw [walk_eq_preorder]
  exact Element.preorderList_map_some g.elements [] List.drop_zero

/-- The walk over a graph ends after as many turns as the graph has elements. What it has met after
each turn is the beginning of the preorder, all of it at the end; these are the elements at the
positions of the graph in their order, each position once and none left out. -/
theorem walk_traverses (g : Graph) :
    (∀ n, ((Traversal.start g).turns? n).map Traversal.met =
        if n ≤ Element.sizeList g.elements then
          some ((Element.preorderList [] g.elements).take n)
        else none) ∧
      g.walk = Element.preorderList [] g.elements ∧
      g.walk.length = Element.sizeList g.elements ∧
      g.walk.map some = g.positions.map g.atPosition? ∧
      g.positions.Pairwise (· < ·) ∧
      ∀ p, p ∈ g.positions ↔ (g.atPosition? p).isSome := by
  refine ⟨fun n => ?_, walk_eq_preorder g, length_walk g, walk_map_some g, positions_pairwise g,
    fun p => mem_positions_iff⟩
  rw [Traversal.map_met_turns?, Traversal.rest_start, length_walk, walk_eq_preorder]
  rfl

end Graph

end JqFlow
