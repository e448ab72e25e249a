import JqFlow.Proofs.Drawing.Edges
import JqFlow.Proofs.Drawing.Labelled
import JqFlow.Proofs.Reading.SuffixChains

/-!
# Chains of suffixes are lines

A chain of suffixes and its links with pipes between them have the same graph: a line from the start
to the end with a node for each link.

## Main definitions

- `Query.mark`: the rectangle for a query that is drawn alone
- `Graph.IsLine`: a graph in which each element is connected with the next one

## Main statements

- `figures_attached`, `figures_pipedQuery`: both are drawn as a rectangle for each link
- `Graph.isLine_build`: rectangles one after another are a line
- `Graph.build?_suffixChain`: the graph of a chain
-/

namespace JqFlow

open Builder (nodeId)

/-- The rectangle for a query that is drawn alone. -/
def Query.mark (q : Query) : Figure :=
  .mark q.title q.outputType?

/-! ### The flow of a chain -/

theorem Link.figures_access (x : Link) (expand : Bool) :
    x.access.figures expand = [x.access.mark] := by
  cases x <;> rfl

theorem Link.access_ne_identity (x : Link) : x.access ≠ .identity := by
  cases x <;> exact fun h => nomatch h

theorem Query.chain_eq_pipe {q : Query} (hq : q ≠ .identity) (suffix : Query) :
    q.chain suffix = .pipe q suffix := by
  cases q with
  | identity => exact absurd rfl hq
  | _ => rfl

theorem figures_attached (rest : List Link) {q : Query} (hq : q ≠ .identity) (expand : Bool) :
    (attached q rest).figures expand =
      q.figures expand ++ rest.map fun x => x.access.mark := by
  induction rest generalizing q with
  | nil => exact (List.append_nil _).symm
  | cons x rest ih =>
    have hpipe : Query.pipe q x.access ≠ .identity := fun h => nomatch h
    have hfigures : (Query.pipe q x.access).figures expand =
        q.figures expand ++ [x.access.mark] :=
      congrArg (q.figures expand ++ ·) (x.figures_access expand)
    rw [attached, List.foldl_cons, Query.chain_eq_pipe hq]
    exact (ih hpipe).trans (by rw [hfigures, List.append_assoc]; rfl)

theorem figures_pipedQuery (first : Link) (rest : List Link) (expand : Bool) :
    (pipedQuery first rest).figures expand = (first :: rest).map fun x => x.access.mark := by
  induction rest generalizing first with
  | nil => exact first.figures_access expand
  | cons x rest ih =>
    have hfigures : (pipedQuery first (x :: rest)).figures expand =
        first.access.figures expand ++ (pipedQuery x rest).figures expand := rfl
    rw [hfigures, ih, first.figures_access]
    rfl

/-! ### Rectangles one after another -/

theorem flowSize_marks (qs : List Query) : flowSize (qs.map Query.mark) = qs.length := by
  induction qs with
  | nil => rfl
  | cons q qs ih =>
    rw [List.map_cons, flowSize, ih, List.length_cons, Nat.add_comm]
    rfl

theorem flowElements_marks (qs : List Query) (n : Nat) :
    (flowElements n (qs.map Query.mark)).map Element.label = qs.map Query.title ∧
      ∀ e ∈ flowElements n (qs.map Query.mark), ∃ id label, e = .node id label .rectangle none := by
  induction qs generalizing n with
  | nil => exact ⟨rfl, fun e he => absurd he List.not_mem_nil⟩
  | cons q qs ih =>
    obtain ⟨hlabels, hflat⟩ := ih (n + 1)
    have helements : flowElements n ((q :: qs).map Query.mark) =
        .node (nodeId n) q.title .rectangle none :: flowElements (n + 1) (qs.map Query.mark) := rfl
    rw [helements]
    refine ⟨congrArg (q.title :: ·) hlabels, fun e he => ?_⟩
    rcases List.mem_cons.mp he with rfl | he
    · exact ⟨_, _, rfl⟩
    · exact hflat e he

/-- Each rectangle is connected with the next one, and the last with what comes after. -/
theorem ends_marks (qs : List Query) (source target : Id) (label last : Option Text) (n : Nat) :
    (flowEdges source label n (qs.map Query.mark) ++
        [(⟨flowEnd source n (qs.map Query.mark), target, last⟩ : Edge)]).map Edge.ends =
      (source :: nodeIds n qs.length ++ [target]).zip (nodeIds n qs.length ++ [target]) := by
  -- From the first rectangle on, the same is to be shown with it as the source.
  induction qs generalizing source label n with
  | nil => rfl
  | cons q qs ih =>
    rw [List.length_cons, Nat.add_comm, nodeIds_one_add]
    exact congrArg ((source, nodeId n) :: ·) (ih (nodeId n) q.mark.leaving (n + 1))

namespace Graph

/-- A graph that is a line: between its start and its end there are only the given nodes, with
nothing inside, and each element is connected with the next one and with no other. -/
structure IsLine (g : Graph) (nodes : List Element) : Prop where
  elements : g.elements =
    .node startId "Start" .circle none :: nodes ++ [.node g.endId "End" .circle none]
  flat : ∀ e ∈ nodes, ∃ id label, e = .node id label .rectangle none
  distinct : g.ids.Nodup
  edges : g.edges.map Edge.ends = g.ids.zip g.ids.tail

/-- Rectangles one after another are a line. -/
theorem isLine_build {q p : Query} {qs : List Query} {expand : Bool}
    (hfigures : q.figures expand = (p :: qs).map Query.mark) :
    (build (some q) expand).IsLine (flowElements 0 ((p :: qs).map Query.mark)) := by
  obtain ⟨helements, hids, hend⟩ := build_elements q expand
  have hedges := edges_build q expand
  rw [hfigures, flowSize_marks] at helements hids hend hedges
  refine ⟨by rw [helements, hend]; rfl, (flowElements_marks _ 0).2, hids ▸ declared_nodup _, ?_⟩
  rw [hedges, hids]
  exact ends_marks (p :: qs) startId _ none _ 0

/-- A chain of suffixes has the graph of its links with pipes between them, whether or not
parenthesized queries are drawn as containers: a line with a node for each link. -/
theorem build?_suffixChain {g g' : Text} (hg : Gap g) (hg' : Gap g') (first : Link)
    (rest : List Link) :
    ∃ q q', Query.parse (chainText first rest) = .ok q ∧
      Query.parse (pipedText (g ++ "|" ++ g') first rest) = .ok q' ∧
      ∀ expand, ∃ graph nodes, build? (some q) expand = .ok graph ∧
        build? (some q') expand = .ok graph ∧ graph.IsLine nodes ∧
        nodes.length = rest.length + 1 ∧
        nodes.map Element.label = (first :: rest).map fun x => x.access.title := by
  have hchain := parse_suffixChain first rest
  have hpiped := parse_pipedLinks hg hg' first rest
  refine ⟨_, _, hchain, hpiped, fun expand => ?_⟩
  -- The two queries lean to different sides, and their flows are the same.
  have hmarks : (attached first.access rest).figures expand =
      (first.access :: rest.map Link.access).map Query.mark := by
    rw [figures_attached rest first.access_ne_identity, first.figures_access, List.map_cons,
      List.map_map]
    rfl
  have hsame : (pipedQuery first rest).figures expand =
      (attached first.access rest).figures expand := by
    rw [figures_pipedQuery, hmarks, ← List.map_cons, List.map_map]
    rfl
  obtain ⟨hlabels, -⟩ := flowElements_marks (first.access :: rest.map Link.access) 0
  have hcount := congrArg List.length hlabels
  refine ⟨build (some (attached first.access rest)) expand, _, build?_of_parse hchain expand, ?_,
    isLine_build hmarks, by simpa using hcount, ?_⟩
  · rw [build?_of_parse hpiped expand, build_some, build_some, hsame]
  · rw [hlabels, ← List.map_cons, List.map_map]
    rfl

/-- The chain `.a[.b | 1]."c"[:.b | 1][]` is a line of five nodes, and so is the chain of its links
with pipes between them. -/
theorem build?_suffixChain_nested :
    Gap " " ∧ ∃ q q', Query.parse ".a[.b | 1].\"c\"[:.b | 1][]" = .ok q ∧
      Query.parse ".a | .[.b | 1] | .\"c\" | .[:.b | 1] | .[]" = .ok q' ∧
      ∀ expand, ∃ graph nodes, build? (some q) expand = .ok graph ∧
        build? (some q') expand = .ok graph ∧ graph.IsLine nodes ∧ nodes.length = 4 + 1 ∧
        nodes.map Element.label =
          ["Index: a", "Index", "Index: \"c\"", "Slice [:.b | 1]", "Index"].map Text.ofString := by
  have hgap : Gap " " := .blank (by decide) .nil
  have hread : Query.parse ".b | 1" = .ok (.pipe (.field "b") (.number "1")) :=
    Query.parse_eq_ok_iff_toOption.mpr (by decide +kernel)
  have hclosed : ∀ q, Query.parse (".b | 1" ++ "]") ≠ .ok q :=
    Query.parse_ne_ok_of_toOption (by decide +kernel)
  exact ⟨hgap, build?_suffixChain hgap hgap (.named "a" (by decide))
    [.place ⟨_, _, hread, hclosed⟩, .key "\"c\"" (by decide),
      .slice none (some ⟨_, _, hread, hclosed⟩), .all]⟩

end Graph
end JqFlow
