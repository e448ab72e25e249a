import JqFlow.Proofs.Reading.StringLiteral

/-!
# How tokens are spelled

The text of a token is spelled as its terminal asks, and would be cut to itself again. This is what
the words of a query text are known by once the text around them is forgotten.

## Main definitions

- `Lexeme.Spelled`: is the text of a token spelled as its terminal asks?

## Main statements

- `Terminal.match?_isPrefix`, `Terminal.match?_cut`: a match is the beginning of the text, and is
  found again in any shorter text that begins with it
- `scan?_spelled`: what is scanned is spelled right
- `Cursor.next_scanned`: the next token of a text has been scanned
-/

namespace JqFlow

namespace Spelling

theorem plainName?_isPlainName {t u : Text} (h : plainName? t = some u) : u.isPlainName = true := by
  cases t with
  | nil => exact absurd h (by simp [plainName?])
  | cons c t =>
    rw [plainName?] at h
    split at h
    · next hstart =>
      rw [← Option.some.inj h, Text.isPlainName, Bool.and_eq_true]
      exact ⟨hstart, List.all_takeWhile⟩
    · exact absurd h (by simp)

theorem signed?_isPlainName {sign : CodePoint} {t u : Text} (h : signed? sign t = some u) :
    Text.isPlainName (u.drop 1) = true := by
  cases t with
  | nil => exact absurd h (by simp [signed?])
  | cons c t =>
    rw [signed?] at h
    split at h
    · obtain ⟨name, hname, rfl⟩ := Option.map_eq_some_iff.mp h
      exact plainName?_isPlainName hname
    · exact absurd h (by simp)

/-! ### Words stand at the beginning of the text -/

theorem signed?_isPrefix {sign : CodePoint} {t u : Text} (h : signed? sign t = some u) :
    u <+: t := by
  cases t with
  | nil => exact absurd h (by simp [signed?])
  | cons c t =>
    rw [signed?] at h
    split at h
    · obtain ⟨name, hname, rfl⟩ := Option.map_eq_some_iff.mp h
      obtain ⟨rest, rfl⟩ := plainName?_prefix hname
      exact ⟨rest, rfl⟩
    · exact absurd h (by simp)

theorem format?_eq_some {t u : Text} : format? t = some u ↔
    ∃ rest, t = .scalar '@' :: rest ∧ rest.takeWhile isNamePart ≠ [] ∧
      u = .scalar '@' :: rest.takeWhile isNamePart := by
  constructor
  · intro h
    unfold format? at h
    split at h
    · next rest =>
      by_cases hpart : rest.takeWhile isNamePart = []
      · simp [hpart] at h
      · simp only [if_neg hpart] at h
        exact ⟨rest, rfl, hpart, (Option.some.inj h).symm⟩
    · exact absurd h (by simp)
  · rintro ⟨rest, rfl, hpart, rfl⟩
    simp only [format?, if_neg hpart]

theorem format?_isPrefix {t u : Text} (h : format? t = some u) : u <+: t := by
  obtain ⟨rest, rfl, -, rfl⟩ := format?_eq_some.mp h
  exact (List.prefix_cons_inj _).mpr (List.takeWhile_prefix _)

theorem drop_of_append {t u rest : Text} (h : u ++ rest = t) : t.drop u.length = rest := by
  rw [← h, List.drop_left' rfl]

theorem fraction_isPrefix (t : Text) : fraction t <+: t := by
  unfold fraction
  split
  · split
    · exact List.nil_prefix
    · exact (List.prefix_cons_inj _).mpr (List.takeWhile_prefix _)
  · exact List.nil_prefix

/-- The sign that an exponent may begin with, after its letter. -/
def exponentSign (t : Text) : Text :=
  (t.take 1).takeWhile fun s => s = .scalar '+' || s = .scalar '-'

theorem exponent_cons {c : CodePoint} (hc : c = .scalar 'e' ∨ c = .scalar 'E') (t : Text) :
    exponent (c :: t) =
      if digits (t.drop (exponentSign t).length) = [] then []
      else c :: (exponentSign t ++ digits (t.drop (exponentSign t).length)) := by
  have hletter : (decide (c = .scalar 'e') || decide (c = .scalar 'E')) = true := by simpa using hc
  simp only [exponent, if_pos hletter, List.cons_append]
  rfl

theorem exponent_cons_of_ne {c : CodePoint} (hc : ¬(c = .scalar 'e' ∨ c = .scalar 'E'))
    (t : Text) : exponent (c :: t) = [] :=
  if_neg (by simpa using hc)

theorem exponentSign_isPrefix (t : Text) : exponentSign t <+: t :=
  (List.takeWhile_prefix _).trans (List.take_prefix _ _)

theorem exponent_isPrefix (t : Text) : exponent t <+: t := by
  cases t with
  | nil => exact List.nil_prefix
  | cons c t =>
    by_cases hc : c = .scalar 'e' ∨ c = .scalar 'E'
    · rw [exponent_cons hc]
      split
      · exact List.nil_prefix
      · obtain ⟨rest, hrest⟩ := exponentSign_isPrefix t
        rw [drop_of_append hrest, List.prefix_cons_inj]
        have hdigits := (List.prefix_append_right_inj (exponentSign t)).mpr
          (List.takeWhile_prefix (l := rest) CodePoint.isDecimalDigit)
        rwa [hrest] at hdigits
    · rw [exponent_cons_of_ne hc]
      exact List.nil_prefix

/-- The parts of the number at the beginning of a text, and the text after it. -/
theorem number?_eq_some {t u : Text} (h : number? t = some u) :
    ∃ whole frac expo rest, t = whole ++ (frac ++ (expo ++ rest)) ∧ whole ≠ [] ∧
      digits t = whole ∧ fraction (frac ++ (expo ++ rest)) = frac ∧
      exponent (expo ++ rest) = expo ∧ u = whole ++ (frac ++ expo) := by
  by_cases hwhole : digits t = []
  · simp [number?, hwhole] at h
  · simp only [number?, if_neg hwhole, Option.some.injEq] at h
    obtain ⟨afterWhole, ht⟩ : digits t <+: t := List.takeWhile_prefix _
    obtain ⟨afterFrac, hfrac⟩ := fraction_isPrefix afterWhole
    obtain ⟨rest, hexpo⟩ := exponent_isPrefix afterFrac
    rw [← List.drop_drop, drop_of_append ht, drop_of_append hfrac, List.append_assoc] at h
    refine ⟨digits t, fraction afterWhole, exponent afterFrac, rest, ?_, hwhole, rfl, ?_, ?_, h.symm⟩
    · rw [hexpo, hfrac, ht]
    · rw [hexpo, hfrac]
    · rw [hexpo]

theorem number?_isPrefix {t u : Text} (h : number? t = some u) : u <+: t := by
  obtain ⟨whole, frac, expo, rest, rfl, -, -, -, -, rfl⟩ := number?_eq_some h
  exact ⟨rest, by simp⟩

/-! ### What is read is read again where the text is cut off after it -/

section

variable {u v r : Text}

theorem takeWhile_cut {p : CodePoint → Bool} (h : (u ++ (v ++ r)).takeWhile p = u) :
    (u ++ v).takeWhile p = u := by
  induction u with
  | nil =>
    cases v with
    | nil => rfl
    | cons c v =>
      cases hc : p c with
      | false => simp [hc]
      | true => simp [hc] at h
  | cons c u ih =>
    cases hc : p c with
    | false => simp [hc] at h
    | true =>
      simp only [List.cons_append, List.takeWhile_cons, hc, if_true, List.cons.injEq, true_and]
        at h ⊢
      exact ih h

theorem digits_cut (h : digits (u ++ (v ++ r)) = u) : digits (u ++ v) = u :=
  takeWhile_cut h

theorem plainName?_eq_none_cut (h : plainName? (v ++ r) = none) : plainName? v = none := by
  cases v with
  | nil => rfl
  | cons c v => simpa [plainName?] using h

theorem plainName?_cut (h : plainName? (u ++ (v ++ r)) = some u) :
    plainName? (u ++ v) = some u := by
  cases u with
  | nil => exact absurd (plainName?_isPlainName h) (by decide)
  | cons c u =>
    simp only [List.cons_append, plainName?] at h ⊢
    split at h
    · next hc =>
      have hrest := (List.cons.inj (Option.some.inj h)).2
      rw [if_pos hc, takeWhile_cut hrest]
    · exact absurd h (by simp)

theorem signed?_cut {sign : CodePoint} (h : signed? sign (u ++ (v ++ r)) = some u) :
    signed? sign (u ++ v) = some u := by
  cases u with
  | nil => exact absurd (signed?_isPlainName h) (by decide)
  | cons c u =>
    simp only [List.cons_append, signed?] at h ⊢
    split at h
    · next hc =>
      obtain ⟨name, hname, heq⟩ := Option.map_eq_some_iff.mp h
      obtain rfl := (List.cons.inj heq).2
      rw [if_pos hc, plainName?_cut hname, Option.map_some]
    · exact absurd h (by simp)

theorem format?_cut (h : format? (u ++ (v ++ r)) = some u) : format? (u ++ v) = some u := by
  obtain ⟨rest, ht, hpart, hu⟩ := format?_eq_some.mp h
  rw [hu, List.cons_append] at ht
  have hcut := takeWhile_cut (p := isNamePart) (congrArg _ (List.cons.inj ht).2)
  refine format?_eq_some.mpr ⟨rest.takeWhile isNamePart ++ v, ?_, hcut.symm ▸ hpart, ?_⟩
  · rw [hu, List.cons_append]
  · rw [hu, hcut]

theorem nameParts_cut {m n : Nat} (h : nameParts m (u ++ (v ++ r)) = u)
    (hm : (u ++ (v ++ r)).length ≤ m) (hn : (u ++ v).length ≤ n) : nameParts n (u ++ v) = u := by
  induction m generalizing n u with
  | zero =>
    obtain ⟨hu, hvr⟩ := List.append_eq_nil_iff.mp (List.length_eq_zero_iff.mp (Nat.le_zero.mp hm))
    rw [hu, (List.append_eq_nil_iff.mp hvr).1]
    exact nameParts_breaks (t := []) trivial n
  | succ m ih =>
    rcases nameParts_cases m (u ++ (v ++ r)) with ⟨part, more, ht, hpart⟩ | ⟨hparts, hnone⟩
    · -- A part begins here. It is read again, and so is what comes after it.
      rw [ht, nameParts_part hpart] at h
      rw [← h] at ht hm hn ⊢
      have hmore : nameParts m more ++ (v ++ r) = more := by simpa using ht
      rw [← hmore] at hpart
      obtain ⟨n, rfl⟩ : ∃ k, n = k + 1 := ⟨n - 1, by simp at hn; omega⟩
      have hcut := @ih (nameParts m more) n (by rw [hmore]) (by simp at hm ⊢; omega)
        (by simp at hn ⊢; omega)
      rw [List.cons_append, List.cons_append, List.append_assoc, nameParts_part, hcut]
      exact plainName?_cut (by simpa using hpart)
    · -- No part begins here, and none does in less of the text.
      obtain rfl := hparts.symm.trans h
      cases n with
      | zero => rfl
      | succ n =>
        rcases nameParts_cases n v with ⟨part, more, rfl, hpart⟩ | ⟨hparts, -⟩
        · have hplain := plainName?_eq_none_cut (hnone ((part ++ more) ++ r) (by simp))
          exact absurd (hpart.symm.trans hplain) (by simp)
        · exact hparts

theorem name?_cut (h : name? (u ++ (v ++ r)) = some u) : name? (u ++ v) = some u := by
  obtain ⟨first, hfirst, hu⟩ := Option.map_eq_some_iff.mp h
  obtain ⟨rest, hrest⟩ := plainName?_prefix hfirst
  rw [hrest, List.drop_left' rfl] at hu
  rw [hrest] at hfirst
  have hparts : nameParts (first ++ rest).length rest ++ (v ++ r) = rest := by
    rw [← hu, List.append_assoc] at hrest
    exact List.append_cancel_left hrest
  have hcut := nameParts_cut (n := (u ++ v).length)
    (by rw [hparts]) (by rw [hparts]; simp) (by rw [← hu]; simp)
  have hplain : plainName? (first ++ (nameParts (first ++ rest).length rest ++ v)) = some first :=
    plainName?_cut (r := r) (by rwa [List.append_assoc, hparts])
  rw [← hu] at hcut ⊢
  rw [List.append_assoc] at hcut ⊢
  rw [name?, hplain, Option.map_some, List.drop_left' rfl, hcut]

theorem fraction_cut (h : fraction (u ++ (v ++ r)) = u) : fraction (u ++ v) = u := by
  have hother {c : CodePoint} (hc : c ≠ .scalar '.') (t : Text) : fraction (c :: t) = [] := by
    unfold fraction
    split <;> simp_all
  have hpoint (t : Text) : fraction (.scalar '.' :: t) =
      if digits t = [] then [] else .scalar '.' :: digits t := rfl
  cases u with
  | nil =>
    cases v with
    | nil => rfl
    | cons c v =>
      by_cases hc : c = .scalar '.'
      · have hdigits : digits (v ++ r) = [] := by
          by_contra hdigits
          rw [hc, List.nil_append, List.cons_append, hpoint, if_neg hdigits] at h
          exact absurd h (List.cons_ne_nil _ _)
        have hcut : digits v = [] := digits_cut (u := []) hdigits
        rw [hc, List.nil_append, hpoint, if_pos hcut]
      · exact hother hc v
  | cons c u =>
    by_cases hc : c = .scalar '.'
    · rw [hc, List.cons_append, hpoint] at h ⊢
      split at h
      · exact absurd h (List.cons_ne_nil _ _).symm
      · next hdigits =>
        have hu := (List.cons.inj h).2
        have hcut := digits_cut hu
        rw [hu] at hdigits
        rw [hcut, if_neg hdigits]
    · rw [List.cons_append, hother hc] at h
      exact absurd h (List.cons_ne_nil _ _).symm

/-- The sign of an exponent does not depend on what comes after the first code point. -/
theorem exponentSign_append (hu : u ≠ []) (v : Text) : exponentSign (u ++ v) = exponentSign u := by
  cases u with
  | nil => exact absurd rfl hu
  | cons c u => rfl

theorem exponent_cut (h : exponent (u ++ (v ++ r)) = u) : exponent (u ++ v) = u := by
  cases u with
  | nil =>
    cases v with
    | nil => rfl
    | cons c v =>
      by_cases hc : c = .scalar 'e' ∨ c = .scalar 'E'
      · by_cases hv : v = []
        · rw [hv]
          rcases hc with rfl | rfl <;> rfl
        · have hlength := (exponentSign_isPrefix v).length_le
          rw [List.nil_append, List.cons_append, exponent_cons hc, exponentSign_append hv,
            List.drop_append_of_le_length hlength] at h
          have hdigits : digits (v.drop (exponentSign v).length ++ r) = [] := by
            by_contra hdigits
            rw [if_neg hdigits] at h
            exact absurd h (List.cons_ne_nil _ _)
          have hcut : digits (v.drop (exponentSign v).length) = [] := digits_cut (u := []) hdigits
          rw [List.nil_append, exponent_cons hc, if_pos hcut]
      · exact exponent_cons_of_ne hc v
  | cons c u =>
    by_cases hc : c = .scalar 'e' ∨ c = .scalar 'E'
    · rw [List.cons_append, exponent_cons hc] at h ⊢
      split at h
      · exact absurd h (List.cons_ne_nil _ _).symm
      · next hdigits =>
        have hrest := (List.cons.inj h).2
        have hu : u ≠ [] := by
          rw [← hrest]
          exact List.append_ne_nil_of_right_ne_nil _ hdigits
        obtain ⟨ds, hds⟩ := exponentSign_isPrefix u
        have hdrop (t : Text) : (u ++ t).drop (exponentSign u).length = ds ++ t :=
          drop_of_append (by rw [← List.append_assoc, hds])
        rw [exponentSign_append hu, hdrop] at hrest hdigits
        have hread : digits (ds ++ (v ++ r)) = ds := List.append_cancel_left (hrest.trans hds.symm)
        rw [exponentSign_append hu, hdrop, digits_cut hread, hds, if_neg (hread ▸ hdigits)]
    · rw [List.cons_append, exponent_cons_of_ne hc] at h
      exact absurd h (List.cons_ne_nil _ _).symm

theorem number?_cut (h : number? (u ++ (v ++ r)) = some u) : number? (u ++ v) = some u := by
  obtain ⟨whole, frac, expo, rest, ht, hne, hwhole, hfrac, hexpo, rfl⟩ := number?_eq_some h
  obtain rfl : v ++ r = rest := by simpa using ht
  have hwhole : digits (whole ++ ((frac ++ (expo ++ v)))) = whole :=
    digits_cut (r := r) (by simpa using hwhole)
  have hfrac : fraction (frac ++ (expo ++ v)) = frac := fraction_cut (r := r) (by simpa using hfrac)
  have hexpo : exponent (expo ++ v) = expo := exponent_cut hexpo
  rw [List.append_assoc, List.append_assoc, number?, hwhole, if_neg hne, List.drop_left' rfl]
  simp only [hfrac, ← List.drop_drop, List.drop_left', hexpo, List.append_assoc]

/-- What is left of a string literal after its quote is read again before anything. -/
theorem stringRest?_eq_some {t : Text} (h : stringRest? t = some u) :
    u <+: t ∧ ∀ r, stringRest? (u ++ r) = some u := by
  fun_induction stringRest? t generalizing u with
  | case1 rest =>
    obtain rfl := Option.some.inj h
    exact ⟨⟨rest, rfl⟩, fun r => rfl⟩
  | case2 rest => exact absurd h (by simp)
  | case3 c rest hc ih =>
    obtain ⟨v, hv, rfl⟩ := Option.map_eq_some_iff.mp h
    obtain ⟨hpre, hagain⟩ := ih hv
    refine ⟨(List.prefix_cons_inj _).mpr ((List.prefix_cons_inj _).mpr hpre), fun r => ?_⟩
    rw [List.cons_append, List.cons_append, stringRest?, if_neg hc, hagain, Option.map_some]
  | case4 => exact absurd h (by simp)
  | case5 c rest hquote hescape hend ih =>
    obtain ⟨v, hv, rfl⟩ := Option.map_eq_some_iff.mp h
    obtain ⟨hpre, hagain⟩ := ih hv
    have hbackslash : c ≠ .scalar '\\' := by
      rintro rfl
      cases rest with
      | nil => exact hend rfl rfl
      | cons d rest => exact hescape d rest rfl rfl
    refine ⟨(List.prefix_cons_inj _).mpr hpre, fun r => ?_⟩
    rw [List.cons_append, Quoted.stringRest?_plain hquote hbackslash, hagain, Option.map_some]
  | case6 => exact absurd h (by simp)

theorem string?_eq_some {t : Text} (h : string? t = some u) :
    u <+: t ∧ ∀ r, string? (u ++ r) = some u := by
  unfold string? at h
  split at h
  · next rest =>
    obtain ⟨v, hv, rfl⟩ := Option.map_eq_some_iff.mp h
    obtain ⟨hpre, hagain⟩ := stringRest?_eq_some hv
    refine ⟨(List.prefix_cons_inj _).mpr hpre, fun r => ?_⟩
    rw [List.cons_append, string?, hagain, Option.map_some]
  · exact absurd h (by simp)

end

end Spelling

/-! ### Tokens -/

namespace Terminal

variable {x : Terminal} {t u v r : Text}

theorem match?_blank : blank.match? t = some u ↔
    t.takeWhile Spelling.isBlank ≠ [] ∧ u = t.takeWhile Spelling.isBlank := by
  by_cases hpart : t.takeWhile Spelling.isBlank = []
  · simp [match?, Spelling.blanks?, hpart]
  · simp [match?, Spelling.blanks?, hpart, eq_comm]

theorem match?_comment : comment.match? t = some u ↔
    ∃ rest, t = .scalar '#' :: rest ∧ u = .scalar '#' :: rest.takeWhile fun c => c != .scalar '\n' := by
  constructor
  · intro h
    simp only [match?] at h
    unfold Spelling.comment? at h
    split at h
    · next rest => exact ⟨rest, rfl, (Option.some.inj h).symm⟩
    · exact absurd h (by simp)
  · rintro ⟨rest, rfl, rfl⟩
    rfl

/-- A match stands at the beginning of the text. -/
theorem match?_isPrefix (h : x.match? t = some u) : u <+: t := by
  cases hliteral : x.literal? with
  | some literal =>
    rw [match?_literal hliteral] at h
    split at h
    · next hpre => exact Option.some.inj h ▸ hpre
    · exact absurd h (by simp)
  | none =>
    cases x with
    | field | varName => exact Spelling.signed?_isPrefix h
    | format => exact Spelling.format?_isPrefix h
    | ident => exact Spelling.name?_isPrefix h
    | number => exact Spelling.number?_isPrefix h
    | string => exact (Spelling.string?_eq_some h).1
    | blank => exact (match?_blank.mp h).2 ▸ List.takeWhile_prefix _
    | comment =>
      obtain ⟨rest, rfl, rfl⟩ := match?_comment.mp h
      exact (List.prefix_cons_inj _).mpr (List.takeWhile_prefix _)
    | _ => simp [match?, literal?] at h hliteral

/-- What is matched is matched again where the text is cut off after it. -/
theorem match?_cut (h : x.match? (u ++ (v ++ r)) = some u) : x.match? (u ++ v) = some u := by
  cases hliteral : x.literal? with
  | some literal =>
    rw [match?_literal hliteral] at h ⊢
    split at h
    · obtain rfl := Option.some.inj h
      exact if_pos (List.prefix_append _ _)
    · exact absurd h (by simp)
  | none =>
    cases x with
    | field | varName => exact Spelling.signed?_cut h
    | format => exact Spelling.format?_cut h
    | ident => exact Spelling.name?_cut h
    | number => exact Spelling.number?_cut h
    | string => exact (Spelling.string?_eq_some h).2 v
    | blank =>
      obtain ⟨hne, hu⟩ := match?_blank.mp h
      have hcut := Spelling.takeWhile_cut hu.symm
      exact match?_blank.mpr ⟨by rw [hcut, hu]; exact hne, hcut.symm⟩
    | comment =>
      obtain ⟨rest, ht, hu⟩ := match?_comment.mp h
      rw [hu, List.cons_append] at ht
      have hcut := Spelling.takeWhile_cut (p := fun c => c != .scalar '\n')
        (congrArg _ (List.cons.inj ht).2)
      rw [hu]
      exact match?_comment.mpr ⟨_, rfl, congrArg _ hcut.symm⟩
    | _ => simp [match?, literal?] at h hliteral

theorem match?_again (h : x.match? t = some u) : x.match? u = some u := by
  obtain ⟨r, rfl⟩ := match?_isPrefix h
  simpa using match?_cut (v := []) h

end Terminal

/-- Is the text of a token spelled as its terminal asks, as far as its meaning depends on it? -/
def Lexeme.Spelled (l : Lexeme) : Prop :=
  match l.terminal with
  | .field | .varName => Text.isPlainName (l.text.drop 1) = true
  | .format => Spelling.format? l.text = some l.text
  | .ident => Spelling.name? l.text = some l.text
  | .number => Spelling.number? l.text = some l.text
  | _ => True

theorem Terminal.spelled_of_match? {x : Terminal} {t text : Text} (h : x.match? t = some text) :
    Lexeme.Spelled ⟨x, text⟩ := by
  cases x with
  | field => exact Spelling.signed?_isPlainName h
  | varName => exact Spelling.signed?_isPlainName h
  | format => exact Terminal.match?_again h
  | ident => exact Terminal.match?_again h
  | number => exact Terminal.match?_again h
  | _ => trivial

/-- A keyword is not spelled in any particular way. -/
theorem spelled_of_promote {expects : Terminal → Bool} {text : Text}
    (h : Spelling.name? text = some text) : Lexeme.Spelled ⟨promote expects text, text⟩ := by
  unfold promote
  cases hk : Terminal.keyword? text with
  | none => exact h
  | some k =>
    have hword : k ∈ Terminal.keywords := List.mem_of_find?_eq_some hk
    show Lexeme.Spelled ⟨if expects k then k else .ident, text⟩
    split
    · cases k <;> trivial
    · exact h

/-- What is scanned is spelled right and taken for what it is. -/
theorem scan?_spelled {expects : Terminal → Bool} {t : Text} {l : Lexeme}
    (h : scan? expects t = some l) :
    l.Spelled ∧ (l.terminal = .ident → promote expects l.text = .ident) := by
  obtain ⟨x, -, hx⟩ := List.exists_of_findSome?_eq_some h
  split at hx
  · obtain ⟨text, htext, rfl⟩ := Option.map_eq_some_iff.mp hx
    have hspelled := Terminal.spelled_of_match? htext
    by_cases hident : x = .ident
    · subst hident
      simp only [if_true]
      exact ⟨spelled_of_promote hspelled, id⟩
    · simp only [if_neg hident]
      exact ⟨hspelled, fun h => absurd h hident⟩
  · exact absurd hx (by simp)

namespace Cursor

/-- The next token of a text has been scanned. -/
theorem next_scanned {expects : Terminal → Bool} {c after : Cursor} {token : Token}
    (h : c.next expects = .token token after) : ∃ t, scan? expects t = some token.lexeme := by
  have hword : (c.next expects).word = .token token.lexeme after.rest := by
    rw [h]
    rfl
  obtain ⟨-, t, -, -, hscan, -⟩ := exists_scan hword
  exact ⟨t, hscan⟩

end Cursor

end JqFlow
