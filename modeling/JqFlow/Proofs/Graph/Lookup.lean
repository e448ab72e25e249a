import JqFlow.Graph.Inspect
import JqFlow.Proofs.Text.Cutting
import Mathlib.Data.List.Nodup

/-!
# Finding elements by their ids

An element is found in several ways: the first one with an id is looked up, paths are noted in a
table in which the last one with an id counts, and rows and details make up paths of their own. Where
no two elements have the same id all of these lead to the same element and the same path.

## Main definitions

- `Element.StandsIn`: an element stands in a forest, inside a chain of containers
- `Graph.Finds`: what is found with the id of an element

## Main statements

- `Graph.mem_walk_iff`: the walk meets every element with the ids of the containers around it
- `Graph.get?_of_mem_walk`, `Graph.pathOf?_of_mem_walk`, `Graph.inspect?_of_mem_walk`: what is found
  with the id of an element
- `Graph.paths_nodup`: different elements have different paths, if no id holds a dot
- `Graph.lookups_agree`: all of it together
-/

namespace JqFlow

/-! ### Where elements stand -/

namespace Element

/-- An element stands in a forest, inside a chain of containers: the outermost one first, each
directly inside the one before. -/
inductive StandsIn : List Element → List Element → Element → Prop
  | top {es : List Element} {e : Element} (h : e ∈ es) : StandsIn es [] e
  | inside {es chain : List Element} {c e : Element} (hc : c ∈ es)
    (h : StandsIn c.children chain e) : StandsIn es (c :: chain) e

theorem StandsIn.mono {es es' chain : List Element} {e : Element} (h : StandsIn es chain e)
    (hsub : es ⊆ es') : StandsIn es' chain e := by
  cases h with
  | top h => exact .top (hsub h)
  | inside hc h => exact .inside (hsub hc) h

theorem preorder_eq_cons (e : Element) (outer : List Id) :
    e.preorder outer = (outer, e) :: preorderList (outer ++ [e.id]) e.children := by
  cases e <;> rfl

theorem preorderList_eq_flatMap (es : List Element) (outer : List Id) :
    preorderList outer es = es.flatMap (preorder outer) := by
  induction es with
  | nil => rfl
  | cons e es ih => rw [preorderList, ih, List.flatMap_cons]

mutual

theorem exists_standsIn (e : Element) (outer : List Id) :
    ∀ p ∈ e.preorder outer, ∃ chain, StandsIn [e] chain p.2 ∧ p.1 = outer ++ chain.map id := by
  intro p hp
  cases e with
  | node id label shape detail =>
    rw [List.mem_singleton.mp hp]
    exact ⟨[], .top List.mem_cons_self, (List.append_nil _).symm⟩
  | container id label children detail =>
    rcases List.mem_cons.mp hp with rfl | hp
    · exact ⟨[], .top List.mem_cons_self, (List.append_nil _).symm⟩
    · obtain ⟨chain, hchain, hids⟩ := exists_standsIn_list children (outer ++ [id]) p hp
      refine ⟨container id label children detail :: chain, .inside List.mem_cons_self hchain, ?_⟩
      rw [hids, List.map_cons, List.append_assoc]
      rfl

/-- What the preorder of a forest meets stands in it, inside the containers whose ids are noted. -/
theorem exists_standsIn_list (es : List Element) (outer : List Id) :
    ∀ p ∈ preorderList outer es,
      ∃ chain, StandsIn es chain p.2 ∧ p.1 = outer ++ chain.map id := by
  intro p hp
  cases es with
  | nil => exact absurd hp List.not_mem_nil
  | cons e es =>
    rcases List.mem_append.mp hp with hp | hp
    · obtain ⟨chain, hchain, hids⟩ := exists_standsIn e outer p hp
      exact ⟨chain, hchain.mono (by simp), hids⟩
    · obtain ⟨chain, hchain, hids⟩ := exists_standsIn_list es outer p hp
      exact ⟨chain, hchain.mono (List.subset_cons_self _ _), hids⟩

end

/-- What stands in a forest is met by its preorder. -/
theorem StandsIn.mem_preorderList {es chain : List Element} {e : Element}
    (h : StandsIn es chain e) (outer : List Id) :
    (outer ++ chain.map id, e) ∈ preorderList outer es := by
  induction h generalizing outer with
  | @top es e h =>
    rw [preorderList_eq_flatMap, List.mem_flatMap]
    refine ⟨e, h, ?_⟩
    rw [preorder_eq_cons, List.map_nil, List.append_nil]
    exact List.mem_cons_self
  | @inside es chain c e hc _ ih =>
    rw [preorderList_eq_flatMap, List.mem_flatMap]
    refine ⟨c, hc, ?_⟩
    have hmem := ih (outer ++ [c.id])
    rw [List.append_assoc] at hmem
    rw [preorder_eq_cons]
    exact List.mem_cons_of_mem _ hmem

/-- The containers around an element stand in the forest themselves. -/
theorem StandsIn.exists_of_mem {es chain : List Element} {c e : Element}
    (h : StandsIn es chain e) (hc : c ∈ chain) : ∃ above, StandsIn es above c := by
  induction h with
  | top => exact absurd hc List.not_mem_nil
  | @inside es chain c' e hc' _ ih =>
    rcases List.mem_cons.mp hc with rfl | hc
    · exact ⟨[], .top hc'⟩
    · obtain ⟨above, habove⟩ := ih hc
      exact ⟨c' :: above, .inside hc' habove⟩

end Element

namespace Graph

variable {g : Graph} {id : Id}

/-- The walk meets every element with the ids of the containers around it. -/
theorem mem_walk_iff {p : List Id × Element} :
    p ∈ g.walk ↔
      ∃ chain, Element.StandsIn g.elements chain p.2 ∧ p.1 = chain.map Element.id := by
  rw [walk_eq_preorder]
  constructor
  · exact Element.exists_standsIn_list g.elements [] p
  · rintro ⟨chain, hchain, hids⟩
    have hmem := hchain.mem_preorderList []
    rwa [List.nil_append, ← hids] at hmem

/-! ### Ids -/

theorem id_mem_ids {p : List Id × Element} (hp : p ∈ g.walk) : p.2.id ∈ g.ids :=
  List.mem_map.mpr ⟨p.2, List.mem_map.mpr ⟨p, hp, rfl⟩, rfl⟩

theorem exists_mem_walk (h : id ∈ g.ids) : ∃ p ∈ g.walk, p.2.id = id := by
  obtain ⟨e, he, hid⟩ := List.mem_map.mp h
  obtain ⟨p, hp, rfl⟩ := List.mem_map.mp he
  exact ⟨p, hp, hid⟩

/-- The ids around an element are ids of elements. -/
theorem mem_ids_of_mem_ancestors {p : List Id × Element} (hp : p ∈ g.walk) (h : id ∈ p.1) :
    id ∈ g.ids := by
  obtain ⟨chain, hchain, hids⟩ := mem_walk_iff.mp hp
  rw [hids] at h
  obtain ⟨c, hc, rfl⟩ := List.mem_map.mp h
  obtain ⟨above, habove⟩ := hchain.exists_of_mem hc
  exact id_mem_ids (mem_walk_iff.mpr ⟨above, habove, rfl⟩ : (above.map Element.id, c) ∈ g.walk)

/-- No two elements have the same id. -/
theorem eq_of_id_eq (hids : g.ids.Nodup) {p p' : List Id × Element} (hp : p ∈ g.walk)
    (hp' : p' ∈ g.walk) (h : p.2.id = p'.2.id) : p = p' := by
  rw [ids, nodes, List.map_map] at hids
  exact List.inj_on_of_nodup_map hids hp hp' h

theorem contains_iff : g.contains id = true ↔ id ∈ g.ids := by
  simp [contains, ids]

theorem contains_eq_false_iff : g.contains id = false ↔ id ∉ g.ids := by
  rw [← contains_iff, Bool.not_eq_true]

theorem mem_undeclared_iff :
    id ∈ g.undeclared ↔
      id ∈ g.edges.flatMap (fun e => [e.source, e.target]) ∧ g.contains id = false := by
  simp [undeclared]

/-! ### What is found -/

theorem get?_of_mem_walk (hids : g.ids.Nodup) {p : List Id × Element} (hp : p ∈ g.walk) :
    g.get? p.2.id = some p.2 := by
  obtain ⟨e, he⟩ : ∃ e, g.get? p.2.id = some e := by
    rw [← Option.isSome_iff_exists, get?, List.find?_isSome]
    exact ⟨p.2, List.mem_map.mpr ⟨p, hp, rfl⟩, decide_eq_true rfl⟩
  have hid : e.id = p.2.id := by simpa using List.find?_some he
  obtain ⟨p', hp', rfl⟩ := List.mem_map.mp (List.mem_of_find?_eq_some he)
  rw [he, eq_of_id_eq hids hp' hp hid]

theorem get?_eq_none_iff : g.get? id = none ↔ id ∉ g.ids := by
  simp [get?, ids]

/-- An id that is there has the path of some element with it. -/
theorem exists_pathOf? (h : g.contains id) :
    ∃ x ∈ g.walk, x.2.id = id ∧ g.pathOf? id = some (dotted x.1 id) := by
  obtain ⟨x, hx, rfl⟩ := exists_mem_walk (contains_iff.mp h)
  have hfound : (g.paths.reverse.lookup x.2.id).isSome := by
    rw [List.lookup_isSome_iff]
    exact ⟨_, List.mem_reverse.mpr (List.mem_map.mpr ⟨x, hx, rfl⟩), beq_self_eq_true _⟩
  obtain ⟨path, hpath⟩ := Option.isSome_iff_exists.mp hfound
  obtain ⟨before, after, hsplit, -⟩ := List.lookup_eq_some_iff.mp hpath
  have hmem : (x.2.id, path) ∈ g.paths := by
    rw [← List.mem_reverse, hsplit]
    simp
  obtain ⟨y, hy, hyid⟩ := List.mem_map.mp hmem
  obtain ⟨hid, rfl⟩ := Prod.mk.inj hyid
  exact ⟨y, hy, hid, hid ▸ hpath⟩

theorem pathOf?_of_mem_walk (hids : g.ids.Nodup) {p : List Id × Element} (hp : p ∈ g.walk) :
    g.pathOf? p.2.id = some (dotted p.1 p.2.id) := by
  obtain ⟨x, hx, hid, hpath⟩ := exists_pathOf? (contains_iff.mpr (id_mem_ids hp))
  rw [hpath, eq_of_id_eq hids hx hp hid]

theorem pathOf?_eq_none_iff : g.pathOf? id = none ↔ g.contains id = false := by
  constructor
  · intro hnone
    by_contra hcontains
    obtain ⟨x, -, -, hpath⟩ := exists_pathOf? (Bool.not_eq_false _ ▸ hcontains)
    rw [hnone] at hpath
    exact absurd hpath (by simp)
  · intro h
    rw [pathOf?, List.lookup_eq_none_iff]
    intro p hp
    obtain ⟨x, hx, rfl⟩ := List.mem_map.mp (List.mem_reverse.mp hp)
    exact bne_iff_ne.mpr fun heq => contains_eq_false_iff.mp h (heq ▸ id_mem_ids hx)

/-- The table of paths has one path for the id of an element. -/
theorem mem_paths_iff (hids : g.ids.Nodup) {p : List Id × Element} (hp : p ∈ g.walk)
    {path : Text} : (p.2.id, path) ∈ g.paths ↔ path = dotted p.1 p.2.id := by
  constructor
  · intro hmem
    obtain ⟨x, hx, heq⟩ := List.mem_map.mp hmem
    obtain ⟨hid, rfl⟩ := Prod.mk.inj heq
    rw [eq_of_id_eq hids hx hp hid]
  · rintro rfl
    exact List.mem_map.mpr ⟨p, hp, rfl⟩

/-- The row of an element. -/
def rowOf (g : Graph) (p : List Id × Element) : ElementRow :=
  ⟨p.2.id, dotted p.1 p.2.id, p.2.label, p.2.shape, (g.outDegrees.lookup p.2.id).getD 0⟩

theorem rows_eq (g : Graph) (shapes : List Shape) :
    g.rows shapes =
      (g.walk.filter fun p => shapes.isEmpty || shapes.contains p.2.shape).map g.rowOf := by
  rw [rows, ← List.filterMap_eq_map, List.filterMap_filter]
  rfl

theorem rows_nil (g : Graph) : g.rows [] = g.walk.map g.rowOf := by
  rw [rows_eq, List.filter_eq_self.mpr]
  exact fun _ _ => rfl

/-- The detail of an element. -/
def detailOf (g : Graph) (p : List Id × Element) : ElementDetail where
  id := p.2.id
  path := dotted p.1 p.2.id
  label := p.2.label
  shape := p.2.shape
  detail := p.2.detail
  incoming := (g.edges.filter fun edge => edge.target = p.2.id).map Edge.source
  outgoing := (g.edges.filter fun edge => edge.source = p.2.id).map Edge.target

theorem inspect?_of_mem_walk (hids : g.ids.Nodup) {p : List Id × Element} (hp : p ∈ g.walk) :
    g.inspect? p.2.id = some (g.detailOf p) := by
  rw [inspect?, get?_of_mem_walk hids hp, pathOf?_of_mem_walk hids hp]
  rfl

theorem inspect?_eq_none (h : id ∉ g.ids) : g.inspect? id = none := by
  rw [inspect?, get?_eq_none_iff.mpr h]
  rfl

/-! ### Paths tell elements apart -/

/-- Different elements have different paths, if no id holds a dot. -/
theorem paths_nodup (hids : g.ids.Nodup) (hdots : ∀ id ∈ g.ids, CodePoint.scalar '.' ∉ id) :
    (g.paths.map Prod.snd).Nodup := by
  have hcut : ∀ p ∈ g.walk, Text.splitOn '.' (dotted p.1 p.2.id) = p.1 ++ [p.2.id] := by
    intro p hp
    refine Text.splitOn_join fun id hid => hdots id ?_
    rcases List.mem_append.mp hid with hid | hid
    · exact mem_ids_of_mem_ancestors hp hid
    · exact List.mem_singleton.mp hid ▸ id_mem_ids hp
  have hwalk : g.walk.Nodup := by
    rw [ids, nodes, List.map_map] at hids
    exact hids.of_map _
  rw [paths, List.map_map]
  refine hwalk.map_on fun p hp p' hp' hpath => eq_of_id_eq hids hp hp' ?_
  have hends : p.1 ++ [p.2.id] = p'.1 ++ [p'.2.id] := by
    rw [← hcut p hp, ← hcut p' hp']
    exact congrArg _ hpath
  exact List.singleton_inj.mp (List.append_inj_right' hends rfl)

/-! ### All ways together -/

/-- What is found with the id of an element: the element itself, one path, one row and a detail; the
path is made of the ids of the containers around the element, from the outside in, and its own. -/
structure Finds (g : Graph) (ancestors : List Id) (e : Element) : Prop where
  element : g.get? e.id = some e
  contains : g.contains e.id = true
  pathOf? : g.pathOf? e.id = some (dotted ancestors e.id)
  paths : ∀ path, (e.id, path) ∈ g.paths ↔ path = dotted ancestors e.id
  listed : ∃ r ∈ g.rows [], r.id = e.id
  row : ∀ shapes, ∀ r ∈ g.rows shapes, r.id = e.id → r.path = dotted ancestors e.id
  detail : ∃ d, g.inspect? e.id = some d ∧ d.id = e.id ∧ d.path = dotted ancestors e.id
  stands : ∃ chain, Element.StandsIn g.elements chain e
  ancestors : ∀ chain, Element.StandsIn g.elements chain e → ancestors = chain.map Element.id

theorem finds_of_mem_walk (hids : g.ids.Nodup) {p : List Id × Element} (hp : p ∈ g.walk) :
    g.Finds p.1 p.2 where
  element := get?_of_mem_walk hids hp
  contains := contains_iff.mpr (id_mem_ids hp)
  pathOf? := pathOf?_of_mem_walk hids hp
  paths _ := mem_paths_iff hids hp
  listed := by
    rw [rows_nil]
    exact ⟨g.rowOf p, List.mem_map.mpr ⟨p, hp, rfl⟩, rfl⟩
  row shapes r hr hid := by
    rw [rows_eq] at hr
    obtain ⟨p', hp', rfl⟩ := List.mem_map.mp hr
    rw [← eq_of_id_eq hids (List.mem_of_mem_filter hp') hp hid]
    rfl
  detail := ⟨_, inspect?_of_mem_walk hids hp, rfl, rfl⟩
  stands := (mem_walk_iff.mp hp).imp fun _ h => h.1
  ancestors chain hchain := by
    have hmem : (chain.map Element.id, p.2) ∈ g.walk := mem_walk_iff.mpr ⟨chain, hchain, rfl⟩
    exact congrArg Prod.fst (eq_of_id_eq hids hp hmem rfl)

/-- Where no two elements have the same id, everything that the walk meets is found with its id in
all ways alike, and nothing is found with another id. If no id holds a dot besides, different elements
have different paths. -/
theorem lookups_agree (hids : g.ids.Nodup) :
    (∀ p ∈ g.walk, g.Finds p.1 p.2) ∧
      (∀ id, id ∉ g.ids →
        g.get? id = none ∧ g.contains id = false ∧ g.pathOf? id = none ∧ g.inspect? id = none) ∧
      ((∀ id ∈ g.ids, CodePoint.scalar '.' ∉ id) → (g.paths.map Prod.snd).Nodup) := by
  refine ⟨fun p hp => finds_of_mem_walk hids hp, fun id hid => ?_, paths_nodup hids⟩
  have hnone := contains_eq_false_iff.mpr hid
  exact ⟨get?_eq_none_iff.mpr hid, hnone, pathOf?_eq_none_iff.mpr hnone, inspect?_eq_none hid⟩

/-- A container in a container, with an edge from a node to itself and one drawn twice. -/
def nested : Graph where
  elements := [.node "a" "A" .circle none,
    .container "b" "B" [.container "c" "C" [.node "d" "D" .rectangle (some "x")] none,
      .node "e" "E" .rectangle none] none]
  edges := [⟨"a", "b", none⟩, ⟨"a", "b", none⟩, ⟨"d", "d", none⟩, ⟨"c", "e", none⟩]
  endId := "e"

theorem nested_ids : nested.ids = ["a", "b", "c", "d", "e"].map Text.ofString := by
  rw [ids, nodes, walk_eq_preorder]
  rfl

theorem nested_ids_nodup : nested.ids.Nodup := by
  rw [nested_ids]
  decide

theorem lookups_agree_nested :
    nested.ids.Nodup ∧
      nested.Finds ["b", "c"] (.node "d" "D" .rectangle (some "x")) ∧
      nested.pathOf? "b.c" = none ∧ (nested.paths.map Prod.snd).Nodup := by
  obtain ⟨hfinds, hnone, hpaths⟩ := lookups_agree nested_ids_nodup
  have hmem : ([Text.ofString "b", Text.ofString "c"],
      Element.node "d" "D" .rectangle (some "x")) ∈ nested.walk := by
    rw [walk_eq_preorder]
    simp [nested, Element.preorderList, Element.preorder]
  refine ⟨nested_ids_nodup, hfinds _ hmem, (hnone "b.c" ?_).2.2.1, hpaths ?_⟩
  · rw [nested_ids]
    decide
  · rw [nested_ids]
    decide

end Graph
end JqFlow
