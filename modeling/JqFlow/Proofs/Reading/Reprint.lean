import JqFlow.Proofs.Reading.PrintedClauses
import JqFlow.Proofs.Reading.Recovered
import JqFlow.Query.Equality

/-!
# Reading what was printed of what was read

The text of a query that was read is read as the query again, up to parentheses, but for three kinds of
parts. The name of a field may have several parts only as a key of an object; a function may be called
`label` only where no pipe begins; and access with brackets that is tried with a question mark is
printed as access to what a `try` yields.

## Main definitions

- `Query.isFaithful`: is a part none of the three?

## Main statements

- `parse_format_parse`: when the text of a query that was read is read as the query
-/

namespace JqFlow

open Query

/-- Is the text of this part read as the part, if the part was read? -/
def Query.isFaithful (q : Query) : Bool :=
  q.hasPlainField && q.pipesNoLabel && q.keepsAttempt

theorem Query.Proper.legible_iff {q : Query} (h : q.Proper) :
    q.Legible ↔ q.Throughout fun p => (p.hasPlainField && p.pipesNoLabel) = true := by
  constructor
  · refine fun hlegible => hlegible.mono fun p hp => ?_
    simp only [isLegible, Bool.and_eq_true] at hp ⊢
    exact hp.1
  · refine fun hreadable => (throughout_and.mpr ⟨h, hreadable⟩).mono fun p hp => ?_
    simp only [isLegible, Bool.and_eq_true] at hp ⊢
    exact ⟨hp.2, hp.1.2⟩

/-- The text of a query that was read is read as the query, up to parentheses, exactly if every part
of the query is faithful. -/
theorem parse_format_parse {t : Text} {q : Query} (h : parse t = .ok q) :
    ∃ text, q.format? = .ok text ∧
      ((∃ r, parse text = .ok r ∧ r.ungroup = q.ungroup) ↔
        q.Throughout fun p => p.isFaithful = true) := by
  obtain ⟨hproper, hpipe⟩ := isWhole_of_parse h
  have hregular : q.Throughout IsRegular := hproper.mono fun _ => And.left
  obtain ⟨hsome, hsame⟩ := parse_print hregular hpipe
  have hfaithful : (q.Throughout fun p => p.isFaithful = true) ↔ q.Legible ∧ q.Steady := by
    rw [hproper.legible_iff, Steady, ← throughout_and]
    simp only [isFaithful, Bool.and_eq_true]
  refine ⟨q.print, format?_of_regular hregular, ?_⟩
  rw [hfaithful, ← hsome]
  cases hparse : parse q.print with
  | error e => simp [Except.toOption]
  | ok r =>
    have hr := hsame r (by rw [hparse]; rfl)
    simp [Except.toOption, hr]

/-- The same place is read as itself without a question mark, and with one as the place in what a
`try` yields. -/
theorem parse_format_parse_place :
    (∃ r, parse ".[0]" = .ok r ∧ r.ungroup = Query.at (number "0")) ∧
      ¬∃ r, parse "try .[0]" = .ok r ∧ r.ungroup = attempt (Query.at (number "0")) none := by
  have hok {t : Text} {q : Query} (h : (parse t).toOption = some q) : parse t = .ok q := by
    cases hparse : parse t with
    | error e => simp [hparse, Except.toOption] at h
    | ok r =>
      rw [hparse] at h
      rw [Option.some.inj h]
  refine ⟨?_, ?_⟩
  · have hparse : parse ".[0]" = .ok (Query.at (number "0")) := hok (by decide +kernel)
    obtain ⟨text, hformat, hread⟩ := parse_format_parse hparse
    obtain rfl : ".[0]" = text := Except.ok.inj hformat
    refine hread.mpr (.intro rfl fun p hp => ?_)
    obtain rfl := List.mem_singleton.mp hp
    exact .intro rfl fun p hp => absurd hp List.not_mem_nil
  · have hparse : parse ".[0]?" = .ok (attempt (Query.at (number "0")) none) :=
      hok (by decide +kernel)
    obtain ⟨text, hformat, hread⟩ := parse_format_parse hparse
    obtain rfl : "try .[0]" = text := Except.ok.inj hformat
    intro h
    exact absurd (throughout_iff.mp (hread.mp h)).1 (by decide)

end JqFlow
