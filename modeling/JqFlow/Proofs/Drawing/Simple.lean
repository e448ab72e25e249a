import JqFlow.Proofs.Drawing.Elements

/-!
# No edge twice

Whatever is drawn, no element is connected with itself and no two elements are connected twice in the
same direction.

## Main definitions

- `Builder.Simple`: the edges are those of the pairs that have been connected, each once

## Main statements

- `Builder.Simple.connect`: connecting keeps this
- `drawFlow_simple`: so does drawing
-/

namespace JqFlow

namespace Builder

/-- The edges are those of the connected pairs, each pair once and of two different ids. -/
structure Simple (b : Builder) : Prop where
  connected : b.connected = (b.edges.map Edge.ends).reverse
  nodup : b.connected.Nodup
  ne : ∀ p ∈ b.connected, p.1 ≠ p.2

namespace Simple

variable {b : Builder}

theorem pairs_nodup (h : Simple b) : (b.edges.map Edge.ends).Nodup := by
  have hnodup := h.nodup
  rw [h.connected] at hnodup
  exact List.nodup_reverse.mp hnodup

theorem source_ne_target (h : Simple b) {e : Edge} (he : e ∈ b.edges) : e.source ≠ e.target := by
  refine h.ne e.ends ?_
  rw [h.connected, List.mem_reverse]
  exact List.mem_map_of_mem he

/-- A step that leaves edges and connected pairs alone. -/
theorem of_eq {b' : Builder} (h : Simple b) (hconnected : b'.connected = b.connected)
    (hedges : b'.edges = b.edges) : Simple b' := by
  refine ⟨?_, ?_, ?_⟩
  · rw [hconnected, hedges]
    exact h.connected
  · rw [hconnected]
    exact h.nodup
  · rw [hconnected]
    exact h.ne

theorem connect (h : Simple b) (source target : Id) : Simple (b.connect source target) := by
  simp only [Builder.connect]
  split
  · exact h.of_eq rfl rfl
  · next hnew =>
    simp only [Bool.or_eq_true, decide_eq_true_eq, List.contains_iff_mem, not_or] at hnew
    obtain ⟨hne, hmem⟩ := hnew
    refine ⟨?_, List.nodup_cons.mpr ⟨hmem, h.nodup⟩, ?_⟩
    · simp [h.connected, Edge.ends]
    · intro p hp
      rcases List.mem_cons.mp hp with rfl | hp
      · exact hne
      · exact h.ne p hp

theorem moveTo (h : Simple b) (id : Id) : Simple (b.moveTo id) :=
  (h.connect b.cursor id).of_eq rfl rfl

theorem noteType (h : Simple b) (id : Id) (type : Option ValueType) :
    Simple (b.noteType id type) := by
  cases type <;> exact h.of_eq rfl rfl

theorem file (h : Simple b) (e : Element) : Simple (b.file e) := by
  simp only [Builder.file]
  split <;> exact h.of_eq rfl rfl

theorem startBranch (h : Simple b) (seed : Id) : Simple (b.startBranch seed) :=
  h.of_eq rfl rfl

theorem drawMark (h : Simple b) (label : Text) (type : Option ValueType) :
    Simple (b.drawMark label type) := by
  have hnext : Simple { b with counter := b.counter + 1 } := h.of_eq rfl rfl
  exact ((hnext.noteType _ type).file _).moveTo _

theorem drawOpen (h : Simple b) (label : Text) (detail : Option Text) (type : Option ValueType) :
    Simple (b.drawOpen label detail type) := by
  have hnext : Simple { b with counter := b.counter + 1 } := h.of_eq rfl rfl
  exact ((hnext.noteType _ type).moveTo _).of_eq rfl rfl

theorem close (h : Simple b) : Simple b.close := by
  rw [Builder.close]
  split
  · next outer _ =>
    have houter : Simple { b with scopes := outer } := h.of_eq rfl rfl
    exact (houter.file _).of_eq rfl rfl
  · exact h

end Simple
end Builder

open Builder (Simple)

theorem Builder.stepInvariant_simple : Builder.StepInvariant Simple where
  mark label type _ h := h.drawMark label type
  opened label detail type _ h := h.drawOpen label detail type
  closed _ h := h.close
  branch seed _ h := h.startBranch seed
  moved id _ h := h.moveTo id

theorem drawFlow_simple (fs : List Figure) {b : Builder} (h : Simple b) :
    Simple (drawFlow fs b) :=
  drawFlow_keeps Builder.stepInvariant_simple fs h

namespace Graph

theorem ended_simple {b : Builder} (h : Simple b) : Simple (ended b) := by
  simp only [ended]
  split
  · exact h.file _
  · exact (h.file _).connect _ _

theorem begin_simple (expand : Bool) : Simple (begin expand) :=
  ⟨rfl, List.nodup_nil, by intro p hp; exact absurd hp List.not_mem_nil⟩

/-- In the graph of a query no pair of elements is connected twice and none with itself. -/
theorem build_simple (q : Query) (expand : Bool) :
    (build (some q) expand).edgePairs.Nodup ∧
      ∀ e ∈ (build (some q) expand).edges, e.source ≠ e.target := by
  rw [build_some, finish_eq]
  have h := ended_simple (drawFlow_simple (q.figures expand) (begin_simple expand))
  exact ⟨h.pairs_nodup, fun e he => h.source_ne_target he⟩

end Graph
end JqFlow
