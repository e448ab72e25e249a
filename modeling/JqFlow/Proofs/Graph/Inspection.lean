import JqFlow.Proofs.Graph.Lookup
import Mathlib.Algebra.BigOperators.Group.Finset.Basic
import Mathlib.Algebra.GroupWithZero.Nat

/-!
# What is seen of a graph

A summary, the rows, the details and the outline of a graph come about in different ways: by a walk
with a list of what is pending, by recursion on the forest, by counting edges in a table, and by
looking for the edges of one element. They agree with each other.

## Main definitions

- `Outline.size`, `Outline.height`, `Outline.entries`: how many items an outline has, how deep it is,
  and what its items say
- `Graph.details`: the details of all elements
- `Graph.ViewsAgree`: what the views of a graph have in common

## Main statements

- `Graph.lookup_outDegrees`: the table of counts holds the number of edges that leave an id
- `Outline.entriesAll_outlines`: an outline shows the elements in the order of the walk
- `Graph.depth_eq`: the depth of a summary is the height of the outline below its root
- `Graph.views_agree`: the views of a graph agree
-/

namespace JqFlow

/-! ### Outlines -/

namespace Outline

mutual

/-- The number of items of an outline. -/
def size : Outline → Nat
  | .item _ _ inside => 1 + sizeAll inside

/-- The number of items of several outlines. -/
def sizeAll : List Outline → Nat
  | [] => 0
  | o :: os => o.size + sizeAll os

end

mutual

/-- The number of steps from the root of an outline to its deepest item. -/
def height : Outline → Nat
  | .item _ _ inside => heightAll inside

/-- The number of steps to the deepest item of several outlines, from an item around them. -/
def heightAll : List Outline → Nat
  | [] => 0
  | o :: os => max (o.height + 1) (heightAll os)

end

mutual

/-- The ids and labels of the items of an outline, each item before those inside it. -/
def entries : Outline → List (Id × Text)
  | .item id label inside => (id, label) :: entriesAll inside

/-- The ids and labels of the items of several outlines. -/
def entriesAll : List Outline → List (Id × Text)
  | [] => []
  | o :: os => o.entries ++ entriesAll os

end

mutual

theorem length_entries (o : Outline) : o.entries.length = o.size := by
  cases o with
  | item id label inside =>
    rw [entries, List.length_cons, length_entriesAll inside, size, Nat.add_comm]

theorem length_entriesAll (os : List Outline) : (entriesAll os).length = sizeAll os := by
  cases os with
  | nil => rfl
  | cons o os =>
    rw [entriesAll, List.length_append, length_entries o, length_entriesAll os, sizeAll]

end

mutual

theorem entries_outline (e : Element) (outer : List Id) :
    e.outline.entries = (e.preorder outer).map fun p => (p.2.id, p.2.label) := by
  cases e with
  | node => rfl
  | container id label children detail =>
    rw [Element.outline, entries, entriesAll_outlines children (outer ++ [id])]
    rfl

/-- An outline shows the elements in the order of the walk. -/
theorem entriesAll_outlines (es : List Element) (outer : List Id) :
    entriesAll (Element.outlines es) =
      (Element.preorderList outer es).map fun p => (p.2.id, p.2.label) := by
  cases es with
  | nil => rfl
  | cons e es =>
    rw [Element.outlines, entriesAll, entries_outline e outer, entriesAll_outlines es outer,
      Element.preorderList, List.map_append]

end

mutual

theorem foldl_max_outline (e : Element) (outer : List Id) (depth : Nat) :
    ((e.preorder outer).map fun p => p.1.length).foldl max depth =
      max depth (outer.length + e.outline.height) := by
  cases e with
  | node => rfl
  | container id label children detail =>
    have hinside := foldl_max_outlines children (outer ++ [id]) (max depth outer.length)
      (by rw [List.length_append, List.length_singleton]; omega)
    rw [Element.preorder, List.map_cons, List.foldl_cons, hinside, Element.outline, height,
      List.length_append, List.length_singleton]
    omega

/-- The greatest number of containers around an element, or what it is compared with. Where that is
not too small, a forest without elements does not count. -/
theorem foldl_max_outlines (es : List Element) (outer : List Id) (depth : Nat)
    (h : outer.length ≤ depth + 1) :
    ((Element.preorderList outer es).map fun p => p.1.length).foldl max depth =
      max depth (outer.length + heightAll (Element.outlines es) - 1) := by
  cases es with
  | nil =>
    show depth = max depth (outer.length + 0 - 1)
    omega
  | cons e es =>
    rw [Element.preorderList, List.map_append, List.foldl_append, foldl_max_outline e,
      foldl_max_outlines es outer _ (by omega), Element.outlines, heightAll]
    omega

end

end Outline

namespace Graph

variable {g : Graph}

/-- The depth of a summary is the height of the outline below its root. -/
theorem depth_eq (g : Graph) : g.summary.depth = g.outline.height - 1 := by
  have hmax := Outline.foldl_max_outlines g.elements [] 0 (Nat.zero_le 1)
  rw [← walk_eq_preorder, List.length_nil, Nat.zero_add, Nat.zero_max] at hmax
  exact hmax

theorem height_pos (h : g.elements ≠ []) : 0 < g.outline.height := by
  obtain ⟨e, es, hes⟩ := List.exists_cons_of_ne_nil h
  rw [outline, hes, Element.outlines, Outline.height, Outline.heightAll]
  omega

theorem outline_entries (g : Graph) :
    g.outline.entries =
      (Text.ofString "graph", Text.ofString "graph") ::
        (g.rows []).map fun r => (r.id, r.label) := by
  rw [outline, Outline.entries, Outline.entriesAll_outlines g.elements [], ← walk_eq_preorder,
    rows_nil, List.map_map]
  rfl

/-! ### Counting edges -/

theorem lookup_countSource (counts : List (Id × Nat)) (e : Edge) (id : Id) :
    ((countSource counts e).lookup id).getD 0 =
      (counts.lookup id).getD 0 + if e.source = id then 1 else 0 := by
  rw [countSource, List.lookup_cons]
  by_cases h : e.source = id
  · subst h
    simp
  · simp [h, beq_false_of_ne (Ne.symm h)]

/-- The table counts on from what it holds already. -/
theorem lookup_foldl_countSource (edges : List Edge) (counts : List (Id × Nat)) (id : Id) :
    ((edges.foldl countSource counts).lookup id).getD 0 =
      (counts.lookup id).getD 0 + (edges.map Edge.source).count id := by
  induction edges generalizing counts with
  | nil => rfl
  | cons e edges ih =>
    rw [List.foldl_cons, ih, lookup_countSource, List.map_cons, List.count_cons]
    simp only [beq_iff_eq]
    omega

/-- The table of counts holds the number of edges that leave an id. -/
theorem lookup_outDegrees (g : Graph) (id : Id) :
    (g.outDegrees.lookup id).getD 0 = (g.edges.map Edge.source).count id :=
  (lookup_foldl_countSource g.edges [] id).trans (Nat.zero_add _)

/-- As many edges are found with an id at an end as the id is counted at that end. -/
theorem length_ends (near far : Edge → Id) (edges : List Edge) (id : Id) :
    ((edges.filter fun e => near e = id).map far).length = (edges.map near).count id := by
  rw [List.length_map, ← List.countP_eq_length_filter, List.count, List.countP_map]
  exact List.countP_congr fun e _ => by simp

/-- Where every end is one of different ids, every end is counted once. -/
theorem sum_map_count {ids ends : List Id} (hids : ids.Nodup) (h : ∀ id ∈ ends, id ∈ ids) :
    (ids.map fun id => ends.count id).sum = ends.length := by
  have hsum := Multiset.sum_count_eq_card (m := (ends : Multiset Id)) fun id hid =>
    List.mem_toFinset.mpr (h id hid)
  simp only [Multiset.coe_count, Multiset.coe_card] at hsum
  rw [← List.sum_toFinset _ hids]
  -- The two counts compare ids in different but equal ways.
  convert hsum

/-- Every end of an edge is the id of an element, if none is undeclared. -/
theorem end_mem_ids (h : g.undeclared = []) {e : Edge} (he : e ∈ g.edges) {id : Id}
    (hid : id ∈ [e.source, e.target]) : id ∈ g.ids := by
  by_contra hnone
  have hmem : id ∈ g.undeclared :=
    mem_undeclared_iff.mpr ⟨List.mem_flatMap.mpr ⟨e, he, hid⟩, contains_eq_false_iff.mpr hnone⟩
  rw [h] at hmem
  exact absurd hmem List.not_mem_nil

/-- Where every element counts the edges that have its id at one end, every edge is counted once. -/
theorem sum_map_walk (hids : g.ids.Nodup) (hdeclared : g.undeclared = []) {near : Edge → Id}
    (hnear : ∀ e, near e ∈ [e.source, e.target]) {f : List Id × Element → Nat}
    (hf : ∀ p, f p = (g.edges.map near).count p.2.id) :
    (g.walk.map f).sum = g.edges.length := by
  have hends : ∀ id ∈ g.edges.map near, id ∈ g.ids := by
    intro id hid
    obtain ⟨e, he, rfl⟩ := List.mem_map.mp hid
    exact end_mem_ids hdeclared he (hnear e)
  have hwalk : g.walk.map f = g.ids.map fun id => (g.edges.map near).count id := by
    rw [ids, nodes, List.map_map, List.map_map]
    exact List.map_congr_left fun p _ => hf p
  rw [hwalk, sum_map_count hids hends, List.length_map]

/-! ### All views together -/

/-- The details of all elements, in order of declaration. -/
def details (g : Graph) : List ElementDetail :=
  g.ids.filterMap g.inspect?

theorem details_eq (hids : g.ids.Nodup) : g.details = g.walk.map g.detailOf := by
  rw [details, ids, nodes, List.map_map, List.filterMap_map, ← List.filterMap_eq_map]
  exact List.filterMap_congr fun p hp => inspect?_of_mem_walk hids hp

/-- What the views of a graph have in common. The root of the outline stands for the graph itself. -/
structure ViewsAgree (g : Graph) : Prop where
  summary_total : g.summary.nodes + g.summary.containers = g.size
  rows_length : (g.rows []).length = g.size
  outline_size : g.outline.size = g.size + 1
  outline_entries : g.outline.entries =
    (Text.ofString "graph", Text.ofString "graph") :: (g.rows []).map fun r => (r.id, r.label)
  depth : g.elements ≠ [] → g.outline.height = g.summary.depth + 1
  depth_nil : g.elements = [] → g.summary.depth = 0
  outDegree : ∀ r ∈ g.rows [],
    ∃ d, g.inspect? r.id = some d ∧ d.id = r.id ∧ r.outDegree = d.outgoing.length
  sum_outDegree : ((g.rows []).map fun r => r.outDegree).sum = g.summary.edges
  sum_outgoing : (g.details.map fun d => d.outgoing.length).sum = g.summary.edges
  sum_incoming : (g.details.map fun d => d.incoming.length).sum = g.summary.edges

/-- The views of a graph agree, if no two elements have the same id and every end of an edge is the id
of an element. -/
theorem views_agree (hids : g.ids.Nodup) (hdeclared : g.undeclared = []) : g.ViewsAgree where
  summary_total := by
    have hlength := List.length_eq_countP_add_countP (fun p => p.2.isContainer) (l := g.walk)
    simpa [summary, size, Nat.add_comm] using hlength.symm
  rows_length := by rw [rows_nil, List.length_map, size]
  outline_size := by
    rw [← Outline.length_entries, outline_entries, List.length_cons, List.length_map, rows_nil,
      List.length_map, size]
  outline_entries := g.outline_entries
  depth h := by
    have hheight := height_pos h
    rw [depth_eq]
    omega
  depth_nil h := by
    rw [depth_eq, outline, h]
    rfl
  outDegree r hr := by
    rw [rows_nil] at hr
    obtain ⟨p, hp, rfl⟩ := List.mem_map.mp hr
    refine ⟨g.detailOf p, inspect?_of_mem_walk hids hp, rfl, ?_⟩
    exact (g.lookup_outDegrees p.2.id).trans (length_ends _ _ _ _).symm
  sum_outDegree := by
    rw [rows_nil, List.map_map]
    exact sum_map_walk hids hdeclared (fun _ => List.mem_cons_self)
      fun p => g.lookup_outDegrees p.2.id
  sum_outgoing := by
    rw [details_eq hids, List.map_map]
    exact sum_map_walk hids hdeclared (fun _ => List.mem_cons_self) fun p => length_ends _ _ _ _
  sum_incoming := by
    rw [details_eq hids, List.map_map]
    exact sum_map_walk hids hdeclared (fun _ => List.mem_cons_of_mem _ List.mem_cons_self)
      fun p => length_ends _ _ _ _

theorem views_agree_nested : nested.ids.Nodup ∧ nested.undeclared = [] ∧ nested.ViewsAgree ∧
    nested.summary = ⟨3, 2, 4, 2⟩ := by
  have hdeclared : nested.undeclared = [] := by
    refine List.eq_nil_iff_forall_not_mem.mpr fun id hid => ?_
    obtain ⟨hmem, hnone⟩ := mem_undeclared_iff.mp hid
    rw [contains_eq_false_iff, nested_ids] at hnone
    exact hnone ((by decide : ∀ id ∈ nested.edges.flatMap fun e => [e.source, e.target],
      id ∈ ["a", "b", "c", "d", "e"].map Text.ofString) id hmem)
  refine ⟨nested_ids_nodup, hdeclared, views_agree nested_ids_nodup hdeclared, ?_⟩
  rw [summary, walk_eq_preorder]
  decide

end Graph
end JqFlow
