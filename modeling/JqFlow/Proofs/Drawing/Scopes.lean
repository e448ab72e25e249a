import JqFlow.Proofs.Drawing.Links
import JqFlow.Proofs.Drawing.Parts

/-!
# Edges and containers

An edge of the graph of a query stays in the scope of its source, or leads from a container to an
element directly inside it. What is drawn for one argument of a call, or for one entry of an object,
is not connected with what is drawn for another.

## Main definitions

- `HasIn`: does an element stand in a scope?
- `Graph.KeepsScope`: the two ways in which an edge may lie
- `Graph.Apart`: are no elements of two groups connected?

## Main statements

- `flowLinks_keep`: a link that ends in a branch of a container begins there or at the container
- `Graph.scopes_of_build?`: what edges there are not

## Design notes

Nothing is asked of the query: a branch in which nothing is drawn ends at its container.
-/

namespace JqFlow

open Builder (nodeId)

/-! ### Branches are left by no link and entered from their container only -/

theorem sum_map_flowSize (flows : List (List Figure)) :
    (flows.map flowSize).sum = branchSize flows := by
  induction flows with
  | nil => rfl
  | cons flow flows ih => rw [List.map_cons, List.sum_cons, ih, branchSize]

theorem mem_of_mem_idGroups {n : Nat} {flows : List (List Figure)} {xs : List Id}
    (h : xs ∈ idGroups n (flows.map flowSize)) : ∀ x ∈ xs, x ∈ nodeIds n (branchSize flows) := by
  intro x hx
  rw [← sum_map_flowSize, ← flatten_idGroups]
  exact List.mem_flatten_of_mem h hx

/-- Does a link that ends in the given group of ids begin there too, or else at the container of the
group? -/
def Keeps (container : Id) (xs : List Id) (p : Id × Id) : Prop :=
  p.2 ∈ xs → p.1 ∈ container :: xs

theorem Keeps.of_target {container : Id} {xs : List Id} {p : Id × Id} (h : p.2 ∉ xs) :
    Keeps container xs p :=
  fun hp => absurd hp h

/-- A link that ends among ids with lower numbers than those of the group, or with higher ones. -/
theorem Keeps.of_apart {container : Id} {xs : List Id} {p : Id × Id} {m n j k : Nat}
    (hxs : ∀ x ∈ xs, x ∈ nodeIds n k) (h : p.2 ∈ nodeIds m j) (hle : m + j ≤ n ∨ n + k ≤ m) :
    Keeps container xs p := by
  refine .of_target fun hp => ?_
  rcases hle with hle | hle
  · exact notMem_nodeIds_of_le h hle (hxs _ hp)
  · exact notMem_nodeIds_of_le (hxs _ hp) hle h

/-- The branches of a container keep their links. -/
theorem branchLinks_keep_own (flows : List (List Figure)) (id : Id) (n : Nat) {xs : List Id}
    (hxs : xs ∈ idGroups n (flows.map flowSize)) :
    ∀ p ∈ branchLinks id n flows, Keeps id xs p := by
  induction flows generalizing n with
  | nil => exact absurd hxs List.not_mem_nil
  | cons flow flows ih =>
    intro p hp
    rw [List.map_cons, idGroups] at hxs
    rcases List.mem_append.mp hp with hp | hp
    · obtain ⟨hsource, htarget⟩ := flowLinks_within flow id n p hp
      rcases List.mem_cons.mp hxs with rfl | hxs
      · exact fun _ => hsource
      · exact .of_apart (mem_of_mem_idGroups hxs) htarget (.inl (Nat.le_refl _))
    · rcases List.mem_cons.mp hxs with rfl | hxs
      · have htarget := (branchLinks_within flows id (n + flowSize flow) p hp).2
        exact .of_apart (fun _ h => h) htarget (.inr (Nat.le_refl _))
      · exact ih (n + flowSize flow) hxs p hp

theorem zipIdx_flowAll_cons (f : Figure) (fs : List Figure) (n : Nat) :
    (flowAll (f :: fs)).zipIdx n = f.all.zipIdx n ++ (flowAll fs).zipIdx (n + f.size) := by
  rw [flowAll, List.zipIdx_append, f.length_all]

theorem zipIdx_branchAll_cons (flow : List Figure) (flows : List (List Figure)) (n : Nat) :
    (branchAll (flow :: flows)).zipIdx n =
      (flowAll flow).zipIdx n ++ (branchAll flows).zipIdx (n + flowSize flow) := by
  rw [branchAll, List.zipIdx_append, length_flowAll]

section Keeping

variable {label : Text} {detail : Option Text} {type : Option ValueType}
  {inside : List (List Figure)} {k : Nat} {xs : List Id}

mutual

/-- For a container in a figure, the branches of the container keep the links of the figure. -/
theorem Figure.links_keep (f : Figure) (source : Id) (n : Nat)
    (hxs : xs ∈ idGroups (k + 1) (inside.map flowSize))
    (h : (.box label detail type inside, k) ∈ f.all.zipIdx n) :
    (∀ x ∈ xs, x ∈ nodeIds (n + 1) (f.size - 1)) ∧
      ∀ p ∈ f.links source n, Keeps (nodeId k) xs p := by
  -- The figure itself is entered at its first number, which is not in the branches.
  have entry {size : Nat} (hsub : ∀ x ∈ xs, x ∈ nodeIds (n + 1) size) :
      Keeps (nodeId k) xs (source, nodeId n) := by
    refine .of_target fun hn => ?_
    have := nodeId_mem_nodeIds.mp (hsub _ hn)
    omega
  cases f with
  | mark => exact absurd h (by simp [Figure.all])
  | fork _ _ operands =>
    rw [Figure.all, List.zipIdx_cons, List.mem_cons] at h
    obtain ⟨hsub, hkeep⟩ := operandLinks_keep operands n (n + 1) (Nat.lt_succ_self n)
      hxs (h.resolve_left (by simp))
    rw [Figure.size, Nat.add_sub_cancel_left]
    refine ⟨hsub, fun p hp => ?_⟩
    rcases List.mem_cons.mp hp with rfl | hp
    · exact entry hsub
    · exact hkeep p hp
  | box _ _ _ branches =>
    rw [Figure.all, List.zipIdx_cons, List.mem_cons] at h
    rw [Figure.size, Nat.add_sub_cancel_left]
    rcases h with h | h
    · -- The figure is the container itself.
      obtain ⟨hbox, rfl⟩ := Prod.mk.inj h
      obtain ⟨-, -, -, rfl⟩ := Figure.box.inj hbox
      have hsub := mem_of_mem_idGroups hxs
      refine ⟨hsub, fun p hp => ?_⟩
      rcases List.mem_cons.mp hp with rfl | hp
      · exact entry hsub
      · exact branchLinks_keep_own inside (nodeId k) (k + 1) hxs p hp
    · obtain ⟨hsub, hkeep⟩ := branchLinks_keep branches (nodeId n) (n + 1) hxs h
      refine ⟨hsub, fun p hp => ?_⟩
      rcases List.mem_cons.mp hp with rfl | hp
      · exact entry hsub
      · exact hkeep p hp

/-- For a container in a flow, the branches of the container keep the links of the flow. -/
theorem flowLinks_keep (fs : List Figure) (source : Id) (n : Nat)
    (hxs : xs ∈ idGroups (k + 1) (inside.map flowSize))
    (h : (.box label detail type inside, k) ∈ (flowAll fs).zipIdx n) :
    (∀ x ∈ xs, x ∈ nodeIds n (flowSize fs)) ∧
      ∀ p ∈ flowLinks source n fs, Keeps (nodeId k) xs p := by
  cases fs with
  | nil => exact absurd h List.not_mem_nil
  | cons f fs =>
    rw [zipIdx_flowAll_cons, List.mem_append] at h
    rw [flowSize, nodeIds_add]
    -- The container is in the first figure or in the rest; the links of the other end elsewhere.
    rcases h with h | h
    · obtain ⟨hsub, hkeep⟩ := f.links_keep source n hxs h
      have hpos := f.size_pos
      have hsub' (x : Id) (hx : x ∈ xs) : x ∈ nodeIds n f.size := by
        obtain ⟨m, hn, hm, rfl⟩ := mem_nodeIds.mp (hsub x hx)
        rw [nodeId_mem_nodeIds]
        omega
      refine ⟨fun x hx => List.mem_append_left _ (hsub' x hx), fun p hp => ?_⟩
      rcases List.mem_append.mp hp with hp | hp
      · exact hkeep p hp
      · have htarget := (flowLinks_within fs (nodeId n) (n + f.size) p hp).2
        exact .of_apart hsub' htarget (.inr (Nat.le_refl _))
    · obtain ⟨hsub, hkeep⟩ := flowLinks_keep fs (nodeId n) (n + f.size) hxs h
      refine ⟨fun x hx => List.mem_append_right _ (hsub x hx), fun p hp => ?_⟩
      rcases List.mem_append.mp hp with hp | hp
      · have htarget := (f.links_within source n p hp).2
        exact .of_apart hsub htarget (.inl (Nat.le_refl _))
      · exact hkeep p hp

theorem operandLinks_keep (flows : List (List Figure)) (operator n : Nat) (hlt : operator < n)
    (hxs : xs ∈ idGroups (k + 1) (inside.map flowSize))
    (h : (.box label detail type inside, k) ∈ (branchAll flows).zipIdx n) :
    (∀ x ∈ xs, x ∈ nodeIds n (branchSize flows)) ∧
      ∀ p ∈ operandLinks (nodeId operator) n flows, Keeps (nodeId k) xs p := by
  cases flows with
  | nil => exact absurd h List.not_mem_nil
  | cons flow flows =>
    rw [zipIdx_branchAll_cons, List.mem_append] at h
    rw [branchSize, nodeIds_add]
    -- The way back leads to the operator, which has a lower number than the operands.
    have back {m size : Nat} (hle : n ≤ m) (hsub : ∀ x ∈ xs, x ∈ nodeIds m size) (source : Id) :
        Keeps (nodeId k) xs (source, nodeId operator) := by
      refine .of_target fun hmem => ?_
      have := nodeId_mem_nodeIds.mp (hsub _ hmem)
      omega
    rcases h with h | h
    · obtain ⟨hsub, hkeep⟩ := flowLinks_keep flow (nodeId operator) n hxs h
      refine ⟨fun x hx => List.mem_append_left _ (hsub x hx), fun p hp => ?_⟩
      rcases List.mem_append.mp hp with hp | hp
      · exact hkeep p hp
      · rcases List.mem_cons.mp hp with rfl | hp
        · exact back (Nat.le_refl n) hsub _
        · rcases List.mem_cons.mp
            (operandLinks_within flows (nodeId operator) (n + flowSize flow) p hp).2 with
            htarget | htarget
          · obtain ⟨source, target⟩ := p
            obtain rfl : target = nodeId operator := htarget
            exact back (Nat.le_refl n) hsub _
          · exact .of_apart hsub htarget (.inr (Nat.le_refl _))
    · obtain ⟨hsub, hkeep⟩ := operandLinks_keep flows operator (n + flowSize flow) (by omega) hxs h
      refine ⟨fun x hx => List.mem_append_right _ (hsub x hx), fun p hp => ?_⟩
      rcases List.mem_append.mp hp with hp | hp
      · have htarget := (flowLinks_within flow (nodeId operator) n p hp).2
        exact .of_apart hsub htarget (.inl (Nat.le_refl _))
      · rcases List.mem_cons.mp hp with rfl | hp
        · exact back (Nat.le_add_right _ _) hsub _
        · exact hkeep p hp

theorem branchLinks_keep (flows : List (List Figure)) (id : Id) (n : Nat)
    (hxs : xs ∈ idGroups (k + 1) (inside.map flowSize))
    (h : (.box label detail type inside, k) ∈ (branchAll flows).zipIdx n) :
    (∀ x ∈ xs, x ∈ nodeIds n (branchSize flows)) ∧
      ∀ p ∈ branchLinks id n flows, Keeps (nodeId k) xs p := by
  cases flows with
  | nil => exact absurd h List.not_mem_nil
  | cons flow flows =>
    rw [zipIdx_branchAll_cons, List.mem_append] at h
    rw [branchSize, nodeIds_add]
    rcases h with h | h
    · obtain ⟨hsub, hkeep⟩ := flowLinks_keep flow id n hxs h
      refine ⟨fun x hx => List.mem_append_left _ (hsub x hx), fun p hp => ?_⟩
      rcases List.mem_append.mp hp with hp | hp
      · exact hkeep p hp
      · have htarget := (branchLinks_within flows id (n + flowSize flow) p hp).2
        exact .of_apart hsub htarget (.inr (Nat.le_refl _))
    · obtain ⟨hsub, hkeep⟩ := branchLinks_keep flows id (n + flowSize flow) hxs h
      refine ⟨fun x hx => List.mem_append_right _ (hsub x hx), fun p hp => ?_⟩
      rcases List.mem_append.mp hp with hp | hp
      · have htarget := (flowLinks_within flow id n p hp).2
        exact .of_apart hsub htarget (.inl (Nat.le_refl _))
      · exact hkeep p hp

end

end Keeping

/-! ### Scopes -/

/-- Does an element with the given id stand directly inside the given containers, from the outside
in? -/
def HasIn (walk : List (List Id × Element)) (outer : List Id) (id : Id) : Prop :=
  ∃ e, (outer, e) ∈ walk ∧ e.id = id

/-- Is this the id of an element in a scope, or of the container whose inside the scope is? -/
def Enters (walk : List (List Id × Element)) (outer : List Id) (id : Id) : Prop :=
  HasIn walk outer id ∨ ∃ above, outer = above ++ [id] ∧ HasIn walk above id

/-- Does a link stay in a scope, or lead from a container to an element directly inside it? -/
def Scoped (walk : List (List Id × Element)) (p : Id × Id) : Prop :=
  ∃ outer, HasIn walk outer p.1 ∧ (HasIn walk outer p.2 ∨ HasIn walk (outer ++ [p.1]) p.2)

section Scopes

variable {walk : List (List Id × Element)}

theorem Enters.scoped {outer : List Id} {source target : Id} (h : Enters walk outer source)
    (h' : HasIn walk outer target) : Scoped walk (source, target) := by
  rcases h with h | ⟨above, rfl, h⟩
  · exact ⟨outer, h, .inl h'⟩
  · exact ⟨above, h, .inr h'⟩

theorem Figure.hasIn (f : Figure) {outer : List Id} {n : Nat}
    (h : ∀ x ∈ Element.preorderList outer (f.elements n), x ∈ walk) :
    HasIn walk outer (nodeId n) := by
  cases f with
  | mark => exact ⟨_, h _ List.mem_cons_self, rfl⟩
  | fork => exact ⟨_, h _ List.mem_cons_self, rfl⟩
  | box => exact ⟨_, h _ List.mem_cons_self, rfl⟩

/-- The elements of the first of two forests are among those of both. -/
theorem mem_of_append {outer : List Id} {es es' : List Element}
    (h : ∀ x ∈ Element.preorderList outer (es ++ es'), x ∈ walk) :
    (∀ x ∈ Element.preorderList outer es, x ∈ walk) ∧
      ∀ x ∈ Element.preorderList outer es', x ∈ walk := by
  rw [Element.preorderList_append] at h
  exact ⟨fun x hx => h x (List.mem_append_left _ hx), fun x hx => h x (List.mem_append_right _ hx)⟩

/-- A flow ends in the scope in which it is drawn. -/
theorem flowEnd_hasIn (fs : List Figure) {outer : List Id} {source : Id} {n : Nat}
    (h : ∀ x ∈ Element.preorderList outer (flowElements n fs), x ∈ walk)
    (hsource : HasIn walk outer source) : HasIn walk outer (flowEnd source n fs) := by
  induction fs generalizing source n with
  | nil => exact hsource
  | cons f fs ih =>
    obtain ⟨hfirst, hrest⟩ := mem_of_append h
    exact ih hrest (f.hasIn hfirst)

mutual

theorem Figure.links_scoped (f : Figure) {outer : List Id} {source : Id} {n : Nat}
    (h : ∀ x ∈ Element.preorderList outer (f.elements n), x ∈ walk)
    (hsource : Enters walk outer source) : ∀ p ∈ f.links source n, Scoped walk p := by
  intro p hp
  have hself := f.hasIn h
  cases f with
  | mark =>
    rw [List.mem_singleton.mp hp]
    exact hsource.scoped hself
  | fork _ _ operands =>
    rcases List.mem_cons.mp hp with rfl | hp
    · exact hsource.scoped hself
    · exact operandLinks_scoped operands (fun x hx => h x (List.mem_cons_of_mem _ hx)) hself p hp
  | box _ _ _ branches =>
    rcases List.mem_cons.mp hp with rfl | hp
    · exact hsource.scoped hself
    · refine branchLinks_scoped branches (fun x hx => h x ?_) (.inr ⟨outer, rfl, hself⟩) p hp
      rw [Figure.elements, Element.preorderList, Element.preorderList, List.append_nil]
      exact List.mem_cons_of_mem _ hx

/-- The links of a flow that is entered from its scope, or from the container around it. -/
theorem flowLinks_scoped (fs : List Figure) {outer : List Id} {source : Id} {n : Nat}
    (h : ∀ x ∈ Element.preorderList outer (flowElements n fs), x ∈ walk)
    (hsource : Enters walk outer source) : ∀ p ∈ flowLinks source n fs, Scoped walk p := by
  intro p hp
  cases fs with
  | nil => exact absurd hp List.not_mem_nil
  | cons f fs =>
    obtain ⟨hfirst, hrest⟩ := mem_of_append h
    rcases List.mem_append.mp hp with hp | hp
    · exact f.links_scoped hfirst hsource p hp
    · exact flowLinks_scoped fs hrest (.inl (f.hasIn hfirst)) p hp

theorem operandLinks_scoped (flows : List (List Figure)) {outer : List Id} {id : Id} {n : Nat}
    (h : ∀ x ∈ Element.preorderList outer (branchElements n flows), x ∈ walk)
    (hid : HasIn walk outer id) : ∀ p ∈ operandLinks id n flows, Scoped walk p := by
  intro p hp
  cases flows with
  | nil => exact absurd hp List.not_mem_nil
  | cons flow flows =>
    obtain ⟨hfirst, hrest⟩ := mem_of_append h
    rcases List.mem_append.mp hp with hp | hp
    · exact flowLinks_scoped flow hfirst (.inl hid) p hp
    · rcases List.mem_cons.mp hp with rfl | hp
      · exact ⟨outer, flowEnd_hasIn flow hfirst hid, .inl hid⟩
      · exact operandLinks_scoped flows hrest hid p hp

theorem branchLinks_scoped (flows : List (List Figure)) {outer : List Id} {id : Id} {n : Nat}
    (h : ∀ x ∈ Element.preorderList outer (branchElements n flows), x ∈ walk)
    (hid : Enters walk outer id) : ∀ p ∈ branchLinks id n flows, Scoped walk p := by
  intro p hp
  cases flows with
  | nil => exact absurd hp List.not_mem_nil
  | cons flow flows =>
    obtain ⟨hfirst, hrest⟩ := mem_of_append h
    rcases List.mem_append.mp hp with hp | hp
    · exact flowLinks_scoped flow hfirst hid p hp
    · exact branchLinks_scoped flows hrest hid p hp

end

end Scopes

/-! ### The graph of a query -/

namespace Graph

/-- Does an edge lead from an element to one in the same scope, or from a container to an element
directly inside it? Both ends are declared. -/
def KeepsScope (g : Graph) (w : Edge) : Prop :=
  Scoped g.walk w.ends

/-- Is no element of one group connected with one of another? -/
def Apart (g : Graph) (xs ys : List Id) : Prop :=
  ∀ x ∈ xs, ∀ y ∈ ys, (x, y) ∉ g.edgePairs ∧ (y, x) ∉ g.edgePairs

/-- The start node, the elements of the flow and the end node of a query stand at the top of its
graph. -/
theorem build_top (q : Query) (expand : Bool) :
    HasIn (build (some q) expand).walk [] startId ∧
      (∀ x ∈ Element.preorderList [] (flowElements 0 (q.figures expand)),
        x ∈ (build (some q) expand).walk) ∧
      HasIn (build (some q) expand).walk [] (endIdOf (flowSize (q.figures expand))) := by
  have hall : ∀ x ∈ Element.preorderList [] ([startNode] ++ (flowElements 0 (q.figures expand) ++
      [endNode (flowSize (q.figures expand))])), x ∈ (build (some q) expand).walk := by
    intro x hx
    rw [walk_eq_preorder, (build_elements q expand).1]
    exact hx
  obtain ⟨hstart, hrest⟩ := mem_of_append hall
  obtain ⟨hflow, hend⟩ := mem_of_append hrest
  exact ⟨⟨startNode, hstart _ List.mem_cons_self, rfl⟩, hflow,
    endNode _, hend _ List.mem_cons_self, rfl⟩

theorem build_keepsScope (q : Query) (expand : Bool) :
    ∀ w ∈ (build (some q) expand).edges, (build (some q) expand).KeepsScope w := by
  intro w hw
  obtain ⟨hstart, hflow, hend⟩ := build_top q expand
  rcases List.mem_append.mp (build_linked q expand w hw).1 with hlink | hlink
  · exact flowLinks_scoped _ hflow (.inl hstart) _ hlink
  · rw [KeepsScope, List.mem_singleton.mp hlink]
    exact ⟨[], flowEnd_hasIn _ hflow hstart, .inl hend⟩

/-- Groups of elements inside a container are apart if each of them is entered from the container or
from itself only. -/
theorem apart_of_keeps {g : Graph} {k : Nat} {sizes : List Nat}
    (h : ∀ xs ∈ idGroups (k + 1) sizes, ∀ w ∈ g.edges, Keeps (nodeId k) xs w.ends) :
    (idGroups (k + 1) sizes).Pairwise g.Apart := by
  have hnodup : (idGroups (k + 1) sizes).flatten.Nodup := by
    rw [flatten_idGroups]
    exact nodeIds_nodup _ _
  -- An edge into one group would begin at the container or in that group.
  have hnone {xs ys : List Id} (hxs : xs ∈ idGroups (k + 1) sizes)
      (hys : ys ∈ idGroups (k + 1) sizes) (hdisjoint : List.Disjoint xs ys) :
      ∀ x ∈ xs, ∀ y ∈ ys, (x, y) ∉ g.edgePairs := by
    intro x hx y hy hmem
    obtain ⟨w, hw, hends⟩ := List.mem_map.mp hmem
    have hsource := h ys hys w hw
    rw [hends] at hsource
    rcases List.mem_cons.mp (hsource hy) with hcontainer | hsame
    · have hinside : nodeId k ∈ nodeIds (k + 1) sizes.sum := by
        rw [← flatten_idGroups, ← hcontainer]
        exact List.mem_flatten_of_mem hxs hx
      have := nodeId_mem_nodeIds.mp hinside
      omega
    · exact hdisjoint hx hsame
  -- No id is given twice, so the groups have no element in common.
  refine (List.nodup_flatten.mp hnodup).2.imp_of_mem ?_
  intro xs ys hxs hys hdisjoint x hx y hy
  exact ⟨hnone hxs hys hdisjoint x hx y hy, hnone hys hxs (List.disjoint_symm hdisjoint) y hy x hx⟩

/-- The branches of a container in the graph of a query are apart. -/
theorem build_apart {q : Query} {expand : Bool} {k : Nat} {label : Text} {detail : Option Text}
    {type : Option ValueType} {inside : List (List Figure)}
    (h : (flowAll (q.figures expand))[k]? = some (.box label detail type inside)) :
    (idGroups (k + 1) (inside.map flowSize)).Pairwise (build (some q) expand).Apart := by
  refine apart_of_keeps fun xs hxs w hw => ?_
  have hmem : (.box label detail type inside, k) ∈ (flowAll (q.figures expand)).zipIdx 0 :=
    List.mem_zipIdx_iff_getElem?.mpr h
  obtain ⟨hsub, hkeep⟩ := flowLinks_keep (q.figures expand) startId 0 hxs hmem
  rcases List.mem_append.mp (build_linked q expand w hw).1 with hlink | hlink
  · exact hkeep _ hlink
  · -- The end node is no element of the flow.
    refine .of_target fun hend => ?_
    rw [List.mem_singleton.mp hlink] at hend
    obtain ⟨m, -, -, hm⟩ := mem_nodeIds.mp (hsub _ hend)
    exact nodeId_ne_endIdOf _ _ hm

/-- Every edge of the graph of a query stays in a scope or leads from a container to an element
directly inside it. What is drawn for different arguments of a call, or for different entries of an
object, is apart. -/
theorem scopes_of_build? {q : Query} {expand : Bool} {g : Graph}
    (h : build? (some q) expand = .ok g) :
    (∀ w ∈ g.edges, g.KeepsScope w) ∧
      ∀ k part, (q.drawn expand)[k]? = some (Part.query part) →
        (part.partIds expand (k + 1)).Pairwise g.Apart := by
  rw [eq_build_of_build? h]
  refine ⟨build_keepsScope q expand, fun k part hpart => ?_⟩
  obtain ⟨f, hf, hfigure⟩ := Query.isDrawnFor_of_getElem? hpart
  obtain rfl : f = part.figure expand := hfigure
  cases part with
  | call name args =>
    have hapart := build_apart hf
    rwa [Query.map_flowSize_argFigures] at hapart
  | object entries =>
    have hapart := build_apart hf
    rwa [Query.map_flowSize_entryFigures] at hapart
  | _ => exact .nil

/-- In the graph of `f({x: 1 | .., y: [2]})` the entries of the object are apart. -/
theorem scopes_of_build?_entries :
    build? (some (.call "f" [.object [⟨"x", .pipe (.number "1") .recurse, none⟩,
        ⟨"y", .array (some (.number "2")), none⟩]])) false =
      .ok (build (some (.call "f" [.object [⟨"x", .pipe (.number "1") .recurse, none⟩,
        ⟨"y", .array (some (.number "2")), none⟩]])) false) ∧
    (build (some (.call "f" [.object [⟨"x", .pipe (.number "1") .recurse, none⟩,
        ⟨"y", .array (some (.number "2")), none⟩]])) false).Apart
      (nodeIds 2 3) (nodeIds 5 3) := by
  have hbuild : build? (some (.call "f" [.object [⟨"x", .pipe (.number "1") .recurse, none⟩,
        ⟨"y", .array (some (.number "2")), none⟩]])) false =
      .ok (build (some (.call "f" [.object [⟨"x", .pipe (.number "1") .recurse, none⟩,
        ⟨"y", .array (some (.number "2")), none⟩]])) false) := rfl
  obtain ⟨-, hapart⟩ := scopes_of_build? hbuild
  exact ⟨hbuild, List.rel_of_pairwise_cons (hapart 1 _ rfl) List.mem_cons_self⟩

end Graph
end JqFlow
