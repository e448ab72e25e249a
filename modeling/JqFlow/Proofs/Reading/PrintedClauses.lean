import JqFlow.Proofs.Reading.PrintedTerms

/-!
# Printed clauses are read

What comes of the printed text of the other kinds of terms, and so of every regular query.

## Main statements

- `exists_printed`: what comes of the printed text of every regular query
- `parse_print`: what the reader of query text makes of it
-/

namespace JqFlow

open Text (Closes)
open Query

section Clauses

variable {q : Query} {o : Option Query} {name : Text}

theorem printed_group {body : Query} (h : (group body).IsRegular) (ih : ∃ o, Printed body o) :
    ∃ o, Printed (group body) o := by
  obtain ⟨o, hreads, hreturns⟩ := Printed.exists_pipe ih h
  refine ⟨_, .plain (reads_group hreads) ?_ (by simp) rfl⟩
  exact hreturns.query (by simp [ungroup]) rfl rfl (by simp [parts]) (by simp [parts])

theorem printed_unary {op : Text} {operand : Query} (h : (unary op operand).IsRegular)
    (hopens : operand.print.Opens) (ih : ∃ o, Printed operand o) :
    ∃ o, Printed (unary op operand) o := by
  obtain ⟨rfl, hterm⟩ := h
  obtain ⟨o, hreads, hreturns⟩ := Printed.exists_term ih hterm (by decide) (by decide)
  have hreads := hreads.opened
  have hequal (r : Text) :
      (parenthesize operand.isOpen operand.print ++ r).head? ≠ some (.scalar '=') := by
    obtain ⟨c, u, hcons, -, hc⟩ := (hopens.parenthesize operand.isOpen).append r
    rw [hcons]
    simpa using hc
  refine ⟨_, .plain (reads_negate hreads hequal) ?_ (by simp) rfl⟩
  exact hreturns.query (by simp [ungroup]) rfl rfl (by simp [parts]) (by simp [parts])

theorem printed_label {body : Query} (h : (label name body).IsRegular) (ih : ∃ o, Printed body o) :
    ∃ o, Printed (label name body) o := by
  obtain ⟨o, hreads, hreturns⟩ := Printed.exists_pipe ih h.2
  refine ⟨_, .plain (reads_label h.1 hreads) ?_ (by simp) rfl⟩
  exact hreturns.query (by simp [ungroup]) rfl rfl (by simp [parts]) (by simp [parts])

theorem printed_bind {source body : Query} (h : (bind source name body).IsRegular)
    (ih : ∃ o, Printed source o) (ih' : ∃ o, Printed body o) :
    ∃ o, Printed (bind source name body) o := by
  obtain ⟨hpipe, hterm, hname, hbody⟩ := h
  obtain ⟨o, hreads, hreturns⟩ := Printed.exists_term ih hterm (by decide) (by decide)
  obtain ⟨o', hreads', hreturns'⟩ := Printed.exists_pipe ih' hbody
  rw [show source.leads = false from hpipe, Bool.and_false] at hreads
  refine ⟨_, .plain (reads_bind hname hreads hreads') ?_ (by simp) rfl⟩
  exact (hreturns.both hreturns').query (by simp [ungroup]) rfl rfl (by simp [parts])
    (by simp [parts])

theorem printed_reduce {source init update : Query}
    (h : (reduce source name init update).IsRegular)
    (ih : ∀ p ∈ (reduce source name init update).parts, ∃ o, Printed p o) :
    ∃ o, Printed (reduce source name init update) o := by
  obtain ⟨hterm, hname, hinit, hupdate⟩ := h
  obtain ⟨o, hreads, hreturns⟩ := Printed.exists_term (ih source (by simp [parts])) hterm
    (by decide) (by decide)
  obtain ⟨o₁, hreads₁, hreturns₁⟩ := Printed.exists_pipe (ih init (by simp [parts])) hinit
  obtain ⟨o₂, hreads₂, hreturns₂⟩ := Printed.exists_pipe (ih update (by simp [parts])) hupdate
  refine ⟨_, .plain (reads_reduce hname hreads hreads₁ hreads₂) ?_ (by simp) rfl⟩
  exact (hreturns.both (hreturns₁.both hreturns₂)).query (by simp [ungroup]) rfl rfl
    (by simp [parts]) (by simp [parts])

theorem printed_foreach {source init update : Query} {extract : Option Query}
    (h : (foreach source name init update extract).IsRegular)
    (ih : ∀ p ∈ (foreach source name init update extract).parts, ∃ o, Printed p o) :
    ∃ o, Printed (foreach source name init update extract) o := by
  obtain ⟨hterm, hname, hinit, hupdate, hextract⟩ := h
  obtain ⟨o, hreads, hreturns⟩ := Printed.exists_term (ih source (by simp [parts])) hterm
    (by decide) (by decide)
  obtain ⟨o₁, hreads₁, hreturns₁⟩ := Printed.exists_pipe (ih init (by simp [parts])) hinit
  obtain ⟨o₂, hreads₂, hreturns₂⟩ := Printed.exists_pipe (ih update (by simp [parts])) hupdate
  cases extract with
  | none =>
    have hfold := reads_foreach hname hreads hreads₁ hreads₂
    have htext : (foreach source name init update none).print =
        "foreach " ++ parenthesize source.isOpen source.print ++ " as $" ++ name ++ " (" ++
          init.print ++ "; " ++ update.print ++ ")" := by
      simp [print, printExtract]
    rw [← htext] at hfold
    refine ⟨_, .plain hfold ?_ (by simp) rfl⟩
    exact (hreturns.both (hreturns₁.both hreturns₂)).query (by simp [ungroup]) rfl rfl
      (by simp [parts]) (by simp [parts])
  | some extract =>
    obtain ⟨o₃, hreads₃, hreturns₃⟩ := Printed.exists_pipe (ih extract (by simp [parts]))
      (hextract extract rfl)
    refine ⟨_, .plain (reads_foreachExtract hname hreads hreads₁ hreads₂ hreads₃) ?_ (by simp) rfl⟩
    exact (hreturns.both (hreturns₁.both (hreturns₂.both hreturns₃))).query (by simp [ungroup])
      rfl rfl (by simp [parts]) (by simp [parts])

theorem printElifs_eq (ps : List (Query × Query)) : printElifs ps = ps.map printElif := by
  induction ps with
  | nil => rfl
  | cons p ps ih => rw [printElifs, ih]; rfl

theorem printed_cond {test branch : Query} {elifs : List (Query × Query)} {otherwise : Option Query}
    (h : (cond test branch elifs otherwise).IsRegular)
    (ih : ∀ p ∈ (cond test branch elifs otherwise).parts, ∃ o, Printed p o) :
    ∃ o, Printed (cond test branch elifs otherwise) o := by
  obtain ⟨htest, hbranch, helifs, hotherwise⟩ := h
  obtain ⟨o, hreads, hreturns⟩ := Printed.exists_pipe (ih test (by simp [parts])) htest
  obtain ⟨o₁, hreads₁, hreturns₁⟩ := Printed.exists_pipe (ih branch (by simp [parts])) hbranch
  have hitem (p : Query × Query) (hp : p ∈ elifs) : ∃ o : Option (Query × Query),
      Reads (.n .elif) Closes false true (printElif p) o ∧
        Returns (p.1.Legible ∧ p.2.Legible) (p.1.Steady ∧ p.2.Steady) (Prod.map ungroup ungroup)
          (p.1.ungroup, p.2.ungroup) o := by
    have hmem (x : Query) (hx : x = p.1 ∨ x = p.2) :
        x ∈ (cond test branch elifs otherwise).parts := by
      simp only [parts, List.cons_append, List.mem_cons, List.mem_append, List.mem_flatMap]
      exact .inr (.inr (.inl ⟨p, hp, by simpa using hx⟩))
    obtain ⟨ot, hreadt, hreturnt⟩ := Printed.exists_pipe (ih p.1 (hmem p.1 (.inl rfl)))
      (helifs p hp).1
    obtain ⟨ob, hreadb, hreturnb⟩ := Printed.exists_pipe (ih p.2 (hmem p.2 (.inr rfl)))
      (helifs p hp).2
    exact ⟨both ot ob, reads_elif hreadt hreadb, hreturnt.both hreturnb⟩
  obtain ⟨items, hfst, hitems⟩ := exists_items hitem
  have hevery := Returns.every (P := fun p => p.1.Legible ∧ p.2.Legible)
    (S := fun p => p.1.Steady ∧ p.2.Steady) (u := fun p => (p.1.ungroup, p.2.ungroup))
    fun j hj => (hitems j hj).2
  have htext : (cond test branch elifs otherwise).print =
      "if " ++ test.print ++ " then " ++ branch.print ++
        (items.flatMap fun j => printElif j.1) ++ printElse otherwise ++ " end" := by
    rw [print, printElifs_eq, ← hfst, List.map_map, ← List.flatMap_def]
    rfl
  subst hfst
  have hall (P : Query → Prop) : (∀ x ∈ (cond test branch (items.map Prod.fst) otherwise).parts, P x) ↔
      P test ∧ P branch ∧ (∀ i ∈ items, P i.1.1 ∧ P i.1.2) ∧ ∀ x ∈ otherwise, P x := by
    simp only [parts, List.flatMap_map, List.cons_append, List.forall_mem_cons,
      List.forall_mem_append, List.forall_mem_flatMap, Option.mem_toList, Option.mem_def,
      List.not_mem_nil, false_imp_iff, implies_true, and_true]
  cases otherwise with
  | none =>
    cases items with
    | nil =>
      have hcond := reads_condThen hreads hreads₁
      have hprint : (cond test branch [] none).print =
          "if " ++ test.print ++ " then " ++ branch.print ++ " end" := by
        simpa [printElse] using htext
      rw [← hprint] at hcond
      refine ⟨_, .plain hcond ?_ (by simp) rfl⟩
      exact (hreturns.both hreturns₁).query (by simp [ungroup]) rfl rfl (by simp [parts])
        (by simp [parts])
    | cons i items =>
      have hcond := reads_condElif hreads hreads₁ fun j hj => (hitems j hj).1
      have hprint : (cond test branch ((i :: items).map Prod.fst) none).print =
          "if " ++ test.print ++ " then " ++ branch.print ++
            ((i :: items).flatMap fun j => printElif j.1) ++ " end" := by
        simpa [printElse] using htext
      rw [← hprint] at hcond
      refine ⟨_, .plain hcond ?_ (by simp) rfl⟩
      refine (hreturns.both (hreturns₁.both hevery)).query ?_ rfl rfl ?_ ?_
      · simp [ungroup, Prod.map, Function.comp_def]
      · rw [hall]
        simp
      · rw [hall]
        simp
  | some otherwise =>
    obtain ⟨o₂, hreads₂, hreturns₂⟩ := Printed.exists_pipe (ih otherwise (by simp [parts]))
      (hotherwise otherwise rfl)
    cases items with
    | nil =>
      have hcond := reads_condElse hreads hreads₁ hreads₂
      have hprint : (cond test branch [] (some otherwise)).print =
          "if " ++ test.print ++ " then " ++ branch.print ++ (" else " ++ otherwise.print) ++
            " end" := by
        simpa [printElse] using htext
      rw [← hprint] at hcond
      refine ⟨_, .plain hcond ?_ (by simp) rfl⟩
      exact (hreturns.both (hreturns₁.both hreturns₂)).query (by simp [ungroup]) rfl rfl
        (by simp [parts]) (by simp [parts])
    | cons i items =>
      have hcond := reads_condElifElse hreads hreads₁ hreads₂ fun j hj => (hitems j hj).1
      have hprint : (cond test branch ((i :: items).map Prod.fst) (some otherwise)).print =
          "if " ++ test.print ++ " then " ++ branch.print ++
            ((i :: items).flatMap fun j => printElif j.1) ++ (" else " ++ otherwise.print) ++
              " end" := by
        simpa [printElse] using htext
      rw [← hprint] at hcond
      refine ⟨_, .plain hcond ?_ (by simp) rfl⟩
      refine (hreturns.both (hreturns₁.both (hevery.both hreturns₂))).query ?_ rfl rfl ?_ ?_
      · simp [ungroup, Prod.map, Function.comp_def]
      · rw [hall]
        simp
      · rw [hall]
        simp

end Clauses

/-! ### Access with brackets -/

section Brackets

variable {q : Query} {o : Option Query} {u : Text}

/-- Access with brackets is a suffix of the input. -/
theorem Printed.bracket (hsuffixes : Suffixes u o) (htext : q.print = "." ++ u)
    (hlevel : q.level = 3) (hleads : q.leads = false) (hopen : q.endsOpen = false)
    (hreturns : q.ReadAgain o) (hop : ∀ op l r, q ≠ operation op l r)
    (hattempt : (attempt q none).keepsAttempt = false) : Printed q o := by
  have hidentity : ReadsAt 3 false false "." (some .identity) :=
    reads_identity.lift (Nat.le_refl 2) (by decide) (by decide) fun h => absurd h (by decide)
  have hreads := hsuffixes hidentity
  have ho : (both (some .identity) o).map (fun p => chain p.1 p.2) = o := by
    cases o <;> rfl
  rw [ho, ← htext] at hreads
  refine ⟨?_, hreturns, fun op _ l r h => absurd h (hop op l r), fun _ => ⟨?_, ?_⟩⟩
  · rw [hlevel, hleads, hopen]
    exact hreads
  · intro hsteady
    exact absurd ((steady_iff.mp hsteady).1.symm.trans hattempt) (by simp)
  · exact ⟨".", u, .identity, o, htext, reads_identity.mono id fun _ => rfl, hsuffixes,
      hreturns.isSome⟩

theorem printed_at {e : Option Query} (h : (index none none e).IsRegular)
    (ih : ∀ p ∈ e, ∃ o, Printed p o) : ∃ o, Printed (index none none e) o := by
  cases e with
  | none =>
    have hreturns : (index none none none).ReadAgain (some .iterate) :=
      (Returns.pure ungroup _).congr
        (by rw [@legible_of_parts (index _ _ _) rfl]; simp [parts])
        (by rw [@steady_of_parts (index _ _ _) rfl]; simp [parts])
    exact ⟨_, .bracket suffixes_iterate rfl rfl rfl rfl hreturns (by simp) rfl⟩
  | some e =>
    obtain ⟨o, hreads, hreturns⟩ := Printed.exists_pipe (ih e rfl) (h e rfl)
    refine ⟨_, .bracket (suffixes_index hreads) ?_ rfl rfl rfl ?_ (by simp) rfl⟩
    · simp [print, printOption, Text.ofString]
    · exact hreturns.query (by simp [ungroup, Query.at]) rfl rfl (by simp [parts]) (by simp [parts])

theorem printed_slice {start stop : Option Query} (h : (slice start stop).IsRegular)
    (hopens : ∀ p ∈ stop, p.print.Opens) (ih : ∀ p ∈ start, ∃ o, Printed p o)
    (ih' : ∀ p ∈ stop, ∃ o, Printed p o) : ∃ o, Printed (slice start stop) o := by
  obtain ⟨hstart, hstop⟩ := h
  cases start with
  | none =>
    cases stop with
    | none =>
      have hreturns : (slice none none).ReadAgain (some (slice none none)) :=
        (Returns.pure ungroup _).congr (by rw [@legible_of_parts (slice _ _) rfl]; simp [parts])
          (by rw [@steady_of_parts (slice _ _) rfl]; simp [parts])
      exact ⟨_, .bracket suffixes_sliceAll rfl rfl rfl rfl hreturns (by simp) rfl⟩
    | some stop =>
      obtain ⟨o, hreads, hreturns⟩ := Printed.exists_pipe (ih' stop rfl) (hstop stop rfl)
      refine ⟨_, .bracket (suffixes_sliceTo hreads) ?_ rfl rfl rfl ?_ (by simp) rfl⟩
      · simp [print, printOption, Text.ofString]
      · exact hreturns.query (by simp [ungroup]) rfl rfl (by simp [parts]) (by simp [parts])
  | some start =>
    obtain ⟨o, hreads, hreturns⟩ := Printed.exists_pipe (ih start rfl) (hstart start rfl)
    cases stop with
    | none =>
      refine ⟨_, .bracket (suffixes_sliceFrom hreads) ?_ rfl rfl rfl ?_ (by simp) rfl⟩
      · simp [print, printOption, Text.ofString]
      · exact hreturns.query (by simp [ungroup]) rfl rfl (by simp [parts]) (by simp [parts])
    | some stop =>
      obtain ⟨o', hreads', hreturns'⟩ := Printed.exists_pipe (ih' stop rfl) (hstop stop rfl)
      have hcolon (r : Text) : (stop.print ++ r).head? ≠ some (.scalar ':') := by
        obtain ⟨c, u, hcons, hc, -⟩ := (hopens stop rfl).append r
        rw [hcons]
        simpa using hc
      refine ⟨_, .bracket (suffixes_slice hreads hreads' hcolon) ?_ rfl rfl rfl ?_ (by simp) rfl⟩
      · simp [print, printOption, Text.ofString]
      · exact (hreturns.both hreturns').query (by simp [ungroup]) rfl rfl (by simp [parts])
          (by simp [parts])

/-- A `try` of access with brackets is read as access to what the `try` yields. -/
theorem printed_bracketedAttempt {body : Query} (h : body.isBracketed = true)
    (ih : ∃ o, Printed body o) : ∃ o, Printed (attempt body none) o := by
  obtain ⟨o, ih⟩ := ih
  obtain ⟨hsteady, t, u, subject, os, htext, hreads, hsuffixes, hsome⟩ := ih.bracketed h
  have hopen : body.isOpen = false := by
    cases body <;> first
      | rfl
      | exact absurd h Bool.false_ne_true
  have hprint : (attempt body none).print = "try " ++ t ++ u := by
    rw [print, hopen, htext, parenthesize, if_neg Bool.false_ne_true, List.append_assoc]
  have hsubject := reads_attempt hreads
  have hlifted : ReadsAt 3 false true ("try " ++ t) (some (attempt subject none)) :=
    hsubject.lift (Nat.le_refl 2) (by decide) (by decide) fun h => absurd h (by decide)
  have hall := (hsuffixes hlifted).opened
  have hlegible : (os.isSome = true) ↔ (attempt body none).Legible := by
    rw [@legible_of_parts (attempt _ _) rfl, hsome]
    simp [parts]
  rw [← hprint] at hall
  refine ⟨(both (some (attempt subject none)) os).map fun p => chain p.1 p.2, ?_, ⟨?_, ?_⟩, (by simp),
    fun _ => ⟨?_, ?_⟩⟩
  · have hlevel : (attempt body none).level = 3 := by
      simp [level, isBracketed, h]
    rw [hlevel]
    exact hall
  · rw [← hlegible]
    cases os <;> simp [both]
  · intro a ha
    cases os with
    | none => exact absurd ha (by simp [both])
    | some s =>
      obtain rfl := Option.some.inj ha
      exact ⟨fun heq => absurd heq (by simp [chain, Query.pipe, ungroup]), fun hs => absurd hs hsteady⟩
  · rw [steady_iff]
    exact fun hs => hsteady (hs.2 _ List.mem_cons_self)
  · exact ⟨_, u, _, os, hprint, hsubject, hsuffixes, hlegible⟩

theorem keepsAttempt_attempt {body : Query} (h : body.isBracketed = false) :
    (attempt body none).keepsAttempt = true := by
  cases body with
  | index name key e => cases name <;> cases key <;> first
      | rfl
      | exact absurd h (by simp [isBracketed])
  | slice start stop => exact absurd h (by simp [isBracketed])
  | _ => rfl

theorem printed_attempt {body : Query} {handler : Option Query}
    (h : (attempt body handler).IsRegular) (ih : ∀ p ∈ (attempt body handler).parts, ∃ o, Printed p o) :
    ∃ o, Printed (attempt body handler) o := by
  have hbody := ih body (by simp [parts])
  cases handler with
  | none =>
    cases hbracketed : body.isBracketed with
    | true => exact printed_bracketedAttempt hbracketed hbody
    | false =>
      rw [Query.IsRegular, hbracketed] at h
      obtain ⟨o, hreads, hreturns⟩ := Printed.exists_term hbody h (Nat.le_refl 2) (by decide)
      have hlevel : (attempt body none).level = 2 := by
        simp [level, isBracketed, hbracketed]
      refine ⟨o.map fun q => attempt q none, .plain ?_ ?_ (by simp) hbracketed⟩
      · rw [hlevel]
        exact reads_attempt hreads
      · exact hreturns.query (by simp [ungroup]) rfl (keepsAttempt_attempt hbracketed)
          (by simp [parts]) (by simp [parts])
  | some handler =>
    obtain ⟨hterm, hends, hterm'⟩ := h
    obtain ⟨o, hreads, hreturns⟩ := Printed.exists_term hbody hterm (Nat.le_refl 2) (by decide)
    obtain ⟨o', hreads', hreturns'⟩ := Printed.exists_term (ih handler (by simp [parts])) hterm'
      (Nat.le_refl 2) (by decide)
    have hclosed : (!body.isOpen && body.endsOpen) = false := by
      cases hopen : body.isOpen with
      | true => rfl
      | false => simp [hends hopen]
    rw [hclosed] at hreads
    refine ⟨_, .plain (reads_attemptCatch hreads hreads') ?_ (by simp) rfl⟩
    exact (hreturns.both hreturns').query (by simp [ungroup]) rfl (by simp [keepsAttempt])
      (by simp [parts]) (by simp [parts])

end Brackets

/-! ### Queries -/

/-- What comes of the printed text of a regular query. -/
theorem exists_printed {q : Query} (h : q.Throughout IsRegular) : ∃ o, Printed q o := by
  induction h with
  | @intro q here below ih =>
    cases q with
    | operation op l r =>
      cases l with
      | none => exact absurd here id
      | some l =>
        cases r with
        | none => exact absurd here id
        | some r =>
          have hmeml : l ∈ (operation op (some l) (some r)).parts := by simp [parts]
          have hmemr : r ∈ (operation op (some l) (some r)).parts := by simp [parts]
          obtain ⟨ol, hl⟩ := ih l hmeml
          obtain ⟨or, hr⟩ := ih r hmemr
          exact printed_operation hl hr (throughout_iff.mp (below l hmeml)).1
            (throughout_iff.mp (below r hmemr)).1 here
    | identity => exact ⟨_, .leaf reads_identity rfl rfl rfl (by simp) rfl⟩
    | recurse => exact ⟨_, .leaf reads_recurse rfl rfl rfl (by simp) rfl⟩
    | null =>
      exact ⟨_, .leaf (reads_name (show Spelling.name? "null" = some "null" by decide) (by decide)) rfl rfl rfl (by simp) rfl⟩
    | bool b => exact ⟨_, printed_bool b⟩
    | number text => exact ⟨_, .leaf (reads_number here) rfl rfl rfl (by simp) rfl⟩
    | string text => exact ⟨_, printed_string text⟩
    | format name text => exact ⟨_, printed_format text here⟩
    | index name key e =>
      cases name with
      | some name =>
        cases key with
        | some key => exact absurd here id
        | none =>
          cases e with
          | some e => exact absurd here id
          | none => exact printed_field here
      | none =>
        cases key with
        | none => exact printed_at here fun p hp => ih p (by simpa [parts] using hp)
        | some key =>
          cases e with
          | some e => exact absurd here id
          | none => exact ⟨_, .leaf (reads_key key) rfl rfl rfl (by simp) rfl⟩
    | slice start stop =>
      refine printed_slice here (fun p hp => opens_print (below p ?_)) (fun p hp => ih p ?_)
        fun p hp => ih p ?_ <;> simp_all [parts]
    | call name args => exact printed_call here ih
    | array body => exact printed_array here fun p hp => ih p (by simpa [parts] using hp)
    | object entries => exact printed_object here ih
    | unary op operand =>
      exact printed_unary here (opens_print (below operand (by simp [parts])))
        (ih operand (by simp [parts]))
    | cond test branch elifs otherwise => exact printed_cond here ih
    | attempt body handler => exact printed_attempt here ih
    | reduce source name init update => exact printed_reduce here ih
    | foreach source name init update extract => exact printed_foreach here ih
    | label name body => exact printed_label here (ih body (by simp [parts]))
    | breakTo name => exact ⟨_, .leaf (reads_break here) rfl rfl rfl (by simp) rfl⟩
    | var name => exact ⟨_, .leaf (reads_var here) rfl rfl rfl (by simp) rfl⟩
    | bind source name body =>
      exact printed_bind here (ih source (by simp [parts])) (ih body (by simp [parts]))
    | group body => exact printed_group here (ih body (by simp [parts]))
    | «foreign» kind => exact absurd here id

/-- What the reader of query text makes of the printed text of a regular query: nothing if some part
of it cannot be read, and the query, up to parentheses, if every part is read as what it was. -/
theorem parse_print {q : Query} (h : q.Throughout IsRegular) (hpipe : q.IsPipe) :
    q.ReadAgain (parse q.print).toOption := by
  obtain ⟨o, hprinted⟩ := exists_printed h
  rw [parse_of_reads (hprinted.pipe hpipe)]
  exact hprinted.returns

end JqFlow
