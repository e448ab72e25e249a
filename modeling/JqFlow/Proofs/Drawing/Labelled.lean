import JqFlow.Proofs.Drawing.Parts
import JqFlow.Proofs.Reading.Recovered

/-!
# Which queries can be drawn

Unknown operators and foreign parts have labels of their own wherever they are drawn. The label of a
slice is put together from the source texts of its bounds, and the language has no text for what it
does not know: this is the only way in which a label can be missing.

## Main definitions

- `Query.HasPrintableBounds`: if a query is a slice, its bounds have a source text

## Main statements

- `Query.label?_isOk_iff`: which queries have a label
- `Graph.labelled_build?`: which queries have a graph
- `Graph.build?_of_parse`: queries that were read do
-/

namespace JqFlow

namespace Query

/-- If this is a slice, its bounds show known parts only. -/
def HasPrintableBounds : Query → Prop
  | slice start stop => (∀ p ∈ start, p.IsPrintable) ∧ ∀ p ∈ stop, p.IsPrintable
  | _ => True

theorem unlabelled?_eq_none_iff {q : Query} : q.unlabelled? = none ↔ q.HasPrintableBounds := by
  cases q with
  | slice start stop =>
    simp only [unlabelled?, orElse_eq_none_iff, unprintableOption?_eq_none_iff,
      unprintable?_eq_none_iff, Option.mem_toList, Option.mem_def, HasPrintableBounds]
  | _ => exact iff_of_true rfl trivial

/-- Only a slice can be without a label. -/
theorem label?_isOk_iff {q : Query} : (∃ l, q.label? = .ok l) ↔ q.HasPrintableBounds := by
  rw [← unlabelled?_eq_none_iff, label?]
  cases q.unlabelled? <;> simp

/-! ### The parts that are drawn -/

/-- Can every part that an element is drawn for be labelled? Keys always can. -/
def AllLabelled (parts : List Part) : Prop :=
  ∀ p, .query p ∈ parts → p.HasPrintableBounds

theorem allLabelled_nil : AllLabelled [] :=
  fun _ hp => absurd hp List.not_mem_nil

theorem allLabelled_append {parts parts' : List Part} :
    AllLabelled (parts ++ parts') ↔ AllLabelled parts ∧ AllLabelled parts' := by
  simp only [AllLabelled, List.mem_append, or_imp, forall_and]

theorem allLabelled_cons {q : Query} {parts : List Part} :
    AllLabelled (.query q :: parts) ↔ q.HasPrintableBounds ∧ AllLabelled parts := by
  simp [AllLabelled]

theorem allLabelled_key {key : Text} {parts : List Part} :
    AllLabelled (.key key :: parts) ↔ AllLabelled parts := by
  simp [AllLabelled]

theorem undrawableArgs?_cons (expand : Bool) (q : Query) (args : List Query) :
    undrawableArgs? expand (q :: args) =
      (undrawable? expand q.unwrapped <|> undrawableArgs? expand args) := by
  cases q <;> rfl

theorem undrawableEntries?_cons (expand : Bool) (e : Entry Query) (entries : List (Entry Query)) :
    undrawableEntries? expand (e :: entries) =
      (undrawable? expand e.value.unwrapped <|> undrawableEntries? expand entries) := by
  obtain ⟨key, value, keyExpr⟩ := e
  cases value <;> rfl

mutual

/-- A query can be drawn if every part of it that an element is drawn for has a label. -/
theorem undrawable?_eq_none_iff (expand : Bool) (q : Query) :
    q.undrawable? expand = none ↔ AllLabelled (q.drawn expand) := by
  cases q with
  | operation op l r =>
    rw [undrawable?, orElse_eq_none_iff, undrawableOption?_eq_none_iff expand l,
      undrawableOption?_eq_none_iff expand r, ← allLabelled_append]
    by_cases hop : op = .pipe
    · subst hop
      rfl
    · rw [drawn_operation expand hop, allLabelled_cons]
      exact (and_iff_right trivial).symm
  | unary op operand =>
    rw [undrawable?, undrawable?_eq_none_iff expand operand, drawn, allLabelled_cons]
    exact (and_iff_right trivial).symm
  | call name args =>
    rw [undrawable?, undrawableArgs?_eq_none_iff expand args, drawn, allLabelled_cons]
    exact (and_iff_right trivial).symm
  | array body =>
    rw [undrawable?, undrawableOption?_eq_none_iff expand body, drawn, allLabelled_cons]
    exact (and_iff_right trivial).symm
  | object entries =>
    rw [undrawable?, undrawableEntries?_eq_none_iff expand entries, drawn, allLabelled_cons]
    exact (and_iff_right trivial).symm
  | bind source name body =>
    rw [undrawable?, orElse_eq_none_iff, undrawable?_eq_none_iff expand source,
      undrawable?_eq_none_iff expand body, drawn, allLabelled_append, allLabelled_cons]
    exact and_congr_right fun _ => (and_iff_right trivial).symm
  | group body =>
    rw [undrawable?, drawn, allLabelled_cons]
    refine .trans ?_ (and_iff_right trivial).symm
    cases expand with
    | false => exact iff_of_true rfl allLabelled_nil
    | true => exact undrawable?_eq_none_iff true body
  | _ =>
    rw [undrawable?, unlabelled?_eq_none_iff, drawn, allLabelled_cons]
    · exact (and_iff_left allLabelled_nil).symm
    all_goals simp

theorem undrawableOption?_eq_none_iff (expand : Bool) (q : Option Query) :
    undrawableOption? expand q = none ↔ AllLabelled (drawnOption expand q) := by
  cases q with
  | none => exact iff_of_true rfl allLabelled_nil
  | some q => exact undrawable?_eq_none_iff expand q

theorem undrawableArgs?_eq_none_iff (expand : Bool) (args : List Query) :
    undrawableArgs? expand args = none ↔ AllLabelled (drawnArgs expand args) := by
  cases args with
  | nil => exact iff_of_true rfl allLabelled_nil
  | cons q args =>
    rw [undrawableArgs?_cons, orElse_eq_none_iff, drawnArgs_cons, allLabelled_append,
      undrawableArgs?_eq_none_iff expand args]
    refine and_congr_left fun _ => ?_
    cases q with
    | group q => exact undrawable?_eq_none_iff expand q
    | _ => exact undrawable?_eq_none_iff expand _

theorem undrawableEntries?_eq_none_iff (expand : Bool) (entries : List (Entry Query)) :
    undrawableEntries? expand entries = none ↔ AllLabelled (drawnEntries expand entries) := by
  match entries with
  | [] => exact iff_of_true rfl allLabelled_nil
  | ⟨key, value, keyExpr⟩ :: entries =>
    rw [undrawableEntries?_cons, orElse_eq_none_iff, drawnEntries_cons, List.cons_append,
      allLabelled_key, allLabelled_append, undrawableEntries?_eq_none_iff expand entries]
    refine and_congr_left fun _ => ?_
    cases value with
    | group q => exact undrawable?_eq_none_iff expand q
    | _ => exact undrawable?_eq_none_iff expand _

end

/-! ### Queries that were read -/

theorem mem_drawnArgs {expand : Bool} {args : List Query} {part : Part}
    (h : part ∈ drawnArgs expand args) : ∃ q ∈ args, part ∈ q.unwrapped.drawn expand := by
  induction args with
  | nil => exact absurd h List.not_mem_nil
  | cons q args ih =>
    rw [drawnArgs_cons, List.mem_append] at h
    rcases h with h | h
    · exact ⟨q, List.mem_cons_self, h⟩
    · obtain ⟨p, hp, h⟩ := ih h
      exact ⟨p, List.mem_cons_of_mem q hp, h⟩

theorem mem_drawnEntries {expand : Bool} {entries : List (Entry Query)} {p : Query}
    (h : .query p ∈ drawnEntries expand entries) :
    ∃ e ∈ entries, .query p ∈ e.value.unwrapped.drawn expand := by
  induction entries with
  | nil => exact absurd h List.not_mem_nil
  | cons e entries ih =>
    rw [drawnEntries_cons, List.cons_append, List.mem_cons, List.mem_append] at h
    rcases h with h | h | h
    · exact absurd h (by simp)
    · exact ⟨e, List.mem_cons_self, h⟩
    · obtain ⟨e', he', h⟩ := ih h
      exact ⟨e', List.mem_cons_of_mem e he', h⟩

/-- What an element is drawn for is the query or is drawn for one of its parts, with or without the
parentheses around that part. -/
theorem mem_drawn {expand : Bool} {p q : Query} (h : .query p ∈ q.drawn expand) :
    p = q ∨ ∃ r ∈ q.parts, .query p ∈ r.drawn expand ∨ .query p ∈ r.unwrapped.drawn expand := by
  have hoption {o : Option Query} (ho : .query p ∈ drawnOption expand o) :
      ∃ r ∈ o.toList, .query p ∈ r.drawn expand := by
    cases o with
    | none => exact absurd ho List.not_mem_nil
    | some r => exact ⟨r, List.mem_singleton.mpr rfl, ho⟩
  cases q with
  | operation op l r =>
    have hside : .query p ∈ drawnOption expand l ++ drawnOption expand r ∨ p = operation op l r := by
      by_cases hop : op = .pipe
      · subst hop
        exact .inl h
      · rw [drawn_operation expand hop, List.mem_cons] at h
        exact h.symm.imp id Part.query.inj
    rcases hside with h | h
    · rcases List.mem_append.mp h with h | h
      · obtain ⟨q, hq, h⟩ := hoption h
        exact .inr ⟨q, List.mem_append_left _ hq, .inl h⟩
      · obtain ⟨q, hq, h⟩ := hoption h
        exact .inr ⟨q, List.mem_append_right _ hq, .inl h⟩
    · exact .inl h
  | unary op operand =>
    rw [drawn, List.mem_cons] at h
    exact h.imp Part.query.inj fun h => ⟨operand, List.mem_singleton.mpr rfl, .inl h⟩
  | call name args =>
    rw [drawn, List.mem_cons] at h
    refine h.imp Part.query.inj fun h => ?_
    obtain ⟨r, hr, h⟩ := mem_drawnArgs h
    exact ⟨r, hr, .inr h⟩
  | array body =>
    rw [drawn, List.mem_cons] at h
    refine h.imp Part.query.inj fun h => ?_
    obtain ⟨r, hr, h⟩ := hoption h
    exact ⟨r, hr, .inl h⟩
  | object entries =>
    rw [drawn, List.mem_cons] at h
    refine h.imp Part.query.inj fun h => ?_
    obtain ⟨e, he, h⟩ := mem_drawnEntries h
    exact ⟨e.value, List.mem_flatMap.mpr ⟨e, he, List.mem_cons_self⟩, .inr h⟩
  | bind source name body =>
    rw [drawn, List.mem_append, List.mem_cons] at h
    rcases h with h | h | h
    · exact .inr ⟨source, List.mem_cons_self, .inl h⟩
    · exact .inl (Part.query.inj h)
    · exact .inr ⟨body, List.mem_cons_of_mem _ List.mem_cons_self, .inl h⟩
  | group body =>
    rw [drawn, List.mem_cons] at h
    refine h.imp Part.query.inj fun h => ⟨body, List.mem_singleton.mpr rfl, .inl ?_⟩
    cases expand with
    | false => exact absurd h List.not_mem_nil
    | true => exact h
  | _ => exact .inl (Part.query.inj (List.mem_singleton.mp h))

/-- Elements are drawn only for what a query is put together from. -/
theorem Throughout.of_mem_drawn {P : Query → Prop} {expand : Bool} {q : Query}
    (h : q.Throughout P) {p : Query} :
    (.query p ∈ q.drawn expand → p.Throughout P) ∧
      (.query p ∈ q.unwrapped.drawn expand → p.Throughout P) := by
  induction h with
  | @intro q here below ih =>
    have hdrawn (hp : .query p ∈ q.drawn expand) : p.Throughout P := by
      rcases mem_drawn hp with rfl | ⟨r, hr, hp | hp⟩
      · exact .intro here below
      · exact (ih r hr).1 hp
      · exact (ih r hr).2 hp
    refine ⟨hdrawn, ?_⟩
    cases q with
    | group body => exact (ih body (List.mem_singleton.mpr rfl)).1
    | _ => exact hdrawn

theorem hasPrintableBounds_of_regular {q : Query} (h : q.Throughout IsRegular) :
    q.HasPrintableBounds := by
  cases q with
  | slice start stop =>
    have hparts := (throughout_iff.mp h).2
    exact ⟨fun p hp => isPrintable_of_regular
        (hparts p (List.mem_append_left _ (Option.mem_toList.mpr hp))),
      fun p hp => isPrintable_of_regular
        (hparts p (List.mem_append_right _ (Option.mem_toList.mpr hp)))⟩
  | _ => trivial

end Query

/-- A query has a label exactly if it is no slice with a bound that has no source text, and it has a
graph exactly if every part of it that an element is drawn for has a label. -/
theorem Graph.labelled_build? (q : Option Query) (expand : Bool) :
    (∀ p : Query, (∃ label, p.label? = .ok label) ↔ p.HasPrintableBounds) ∧
      ((∃ g, build? q expand = .ok g) ↔
        ∀ p, .query p ∈ Query.drawnOption expand q → p.HasPrintableBounds) := by
  refine ⟨fun p => Query.label?_isOk_iff, ?_⟩
  refine .trans ?_ (Query.undrawableOption?_eq_none_iff expand q)
  rw [build?]
  cases Query.undrawableOption? expand q <;> simp

/-- A query that was read has a graph. -/
theorem Graph.build?_of_parse {t : Text} {q : Query} (h : Query.parse t = .ok q) (expand : Bool) :
    build? (some q) expand = .ok (build (some q) expand) := by
  have hregular : q.Throughout Query.IsRegular :=
    (isWhole_of_parse h).proper.mono fun _ => And.left
  have hnone : Query.undrawableOption? expand (some q) = none :=
    (Query.undrawableOption?_eq_none_iff expand (some q)).mpr fun _ hp =>
      Query.hasPrintableBounds_of_regular (hregular.of_mem_drawn.1 hp)
  rw [build?, hnone]

end JqFlow
