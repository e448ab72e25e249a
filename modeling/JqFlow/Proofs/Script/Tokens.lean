import JqFlow.Proofs.Script.Quoting
import Mathlib.Data.List.Induction

/-!
# Quoted texts as tokens

A reader that takes every backslash for the mark of an escape stops at the first quotation mark that
is not escaped. A text between double quotes is such a token, whatever comes after it. A text that
would be taken for one with a variable in it stands between single quotes, where apostrophes are
escaped and backslashes are not: it is a token that is read as the text only if it holds no backslash.

## Main definitions

- `Script.readQuoted?`: what the token at the beginning of a text stands for, and what comes after it
- `Script.backslashes`: the number of backslashes at the end of a text
- `Script.Strays`: does an apostrophe come after an odd number of backslashes?

## Main statements

- `Script.readQuoted?_plain`: a text between double quotes
- `Script.readQuoted?_substitution`: a text between single quotes is read as the text, ends too early
  or does not end at all

## Design notes

The reader keeps whether the next code point is escaped. After the part of a text that stands between
single quotes it is so if the part ends in an odd number of backslashes, as long as no apostrophe has
ended the token: it would have come where the code point is escaped, since it has a backslash of its
own.
-/

namespace JqFlow
namespace Script

/-- Reads up to the first `mark` that is not escaped: what is read, and what comes after the mark.
The first code point is escaped if `escaped`; `means` tells what an escaped code point stands for. -/
def readTo? (mark : CodePoint) (means : CodePoint → CodePoint) :
    Bool → Text → Option (Text × Text)
  | _, [] => none
  | true, c :: t => (readTo? mark means false t).map fun p => (means c :: p.1, p.2)
  | false, c :: t =>
    if c = mark then some ([], t)
    else if c = '\\' then readTo? mark means true t
    else (readTo? mark means false t).map fun p => (c :: p.1, p.2)

/-- What an escaped code point stands for between double quotes. -/
def meansDouble (c : CodePoint) : CodePoint :=
  if c = 'n' then '\n' else c

/-- The token at the beginning of a text, from its opening quote on: what it stands for, and what
comes after it. Nothing, if it is not closed. -/
def readQuoted? : Text → Option (Text × Text)
  | .scalar '\'' :: t => readTo? '\'' id false t
  | .scalar '"' :: t => readTo? '"' meansDouble false t
  | _ => none

/-! ### Double quotes -/

/-- What is written between double quotes is read up to the closing one. -/
theorem readTo?_encodeDouble (t r : Text) :
    readTo? '"' meansDouble false (t.replaceEach encodeDouble ++ CodePoint.scalar '"' :: r) =
      some (t, r) := by
  have hmeans : ∀ p ∈ doubleEscapes, meansDouble p.2 = p.1 := by decide
  induction t with
  | nil => rfl
  | cons c t ih =>
    rw [Text.replaceEach] at ih ⊢
    rw [List.flatMap_cons, List.append_assoc]
    rcases encodeDouble_cases c with ⟨hbackslash, hquote, -, hself⟩ | ⟨x, hx, hescape⟩
    · rw [hself, List.singleton_append, readTo?, if_neg hquote, if_neg hbackslash, ih]
      rfl
    · rw [hescape, List.cons_append, List.singleton_append, readTo?, if_neg (by decide),
        if_pos rfl, readTo?, ih, Option.map_some, hmeans _ hx]

theorem hasSubstitution_cons (c : CodePoint) (t : Text) :
    hasSubstitution (c :: t) =
      (c = '$' && t.head? = some (.scalar '\x7b') || hasSubstitution t) := by
  have hmarks : ("$\x7b" : Text) = [.scalar '$', .scalar '\x7b'] := rfl
  simp only [hasSubstitution, hmarks, Text.hasInfix]
  congr 1
  cases t with
  | nil => simp [List.isPrefixOf]
  | cons d t => simp [List.isPrefixOf, Bool.beq_eq_decide_eq, eq_comm]

/-- The next code point matters only to a dollar sign. -/
theorem hasSubstitution_cons_of_ne {c : CodePoint} (h : c ≠ '$') (t : Text) :
    hasSubstitution (c :: t) = hasSubstitution t := by
  simp [hasSubstitution_cons, h]

/-- A brace is written first only where it stands first. -/
theorem head?_encodeDouble (t : Text) :
    (t.replaceEach encodeDouble ++ [CodePoint.scalar '"']).head? = some (.scalar '\x7b') ↔
      t.head? = some (.scalar '\x7b') := by
  have hescaped : ∀ p ∈ doubleEscapes, p.1 ≠ .scalar '\x7b' := by decide
  cases t with
  | nil => decide
  | cons c t =>
    rw [Text.replaceEach, List.flatMap_cons, List.append_assoc]
    rcases encodeDouble_cases c with ⟨-, -, -, hself⟩ | ⟨x, hx, hescape⟩
    · rw [hself]
      rfl
    · rw [hescape]
      exact iff_of_false (by simp) fun hc => hescaped _ hx (Option.some.inj hc)

/-- Between double quotes a text would be taken for one with a variable in it exactly if it would be
without them. -/
theorem hasSubstitution_encodeDouble (t : Text) :
    hasSubstitution (t.replaceEach encodeDouble ++ [CodePoint.scalar '"']) = hasSubstitution t := by
  have hescaped : ∀ p ∈ doubleEscapes, p.1 ≠ .scalar '$' ∧ p.2 ≠ .scalar '$' := by decide
  induction t with
  | nil => decide
  | cons c t ih =>
    have hhead := head?_encodeDouble t
    rw [Text.replaceEach] at ih hhead ⊢
    rw [List.flatMap_cons, List.append_assoc]
    rcases encodeDouble_cases c with ⟨-, -, -, hself⟩ | ⟨x, hx, hescape⟩
    · rw [hself, List.singleton_append, hasSubstitution_cons, hasSubstitution_cons, ih]
      simp only [hhead]
    · rw [hescape, List.cons_append, List.singleton_append,
        hasSubstitution_cons_of_ne (by decide), hasSubstitution_cons_of_ne (hescaped _ hx).2,
        hasSubstitution_cons_of_ne (hescaped _ hx).1, ih]

theorem quote_plain {t : Text} (h : hasSubstitution t = false) :
    quote t = CodePoint.scalar '"' :: (t.replaceEach encodeDouble ++ [CodePoint.scalar '"']) := by
  rw [quote, h]
  rfl

theorem quote_substitution {t : Text} (h : hasSubstitution t = true) :
    quote t =
      CodePoint.scalar '\'' :: (t.replaceEach encodeSingle ++ [CodePoint.scalar '\'']) := by
  rw [quote, h]
  rfl

/-- A text that would not be taken for one with a variable in it is quoted as one line between double
quotes, which would not be taken for one either. Whatever comes after it, the first quotation mark
that is not escaped closes it, and what is read is the text; so no other text is quoted so. -/
theorem readQuoted?_plain {t : Text} (h : hasSubstitution t = false) :
    (quote t).head? = some (.scalar '"') ∧ OneLine (quote t) ∧
      hasSubstitution (quote t) = false ∧
      (∀ r, readQuoted? (quote t ++ r) = some (t, r)) ∧ ∀ s, quote s = quote t → s = t := by
  have hread {t : Text} (h : hasSubstitution t = false) (r : Text) :
      readQuoted? (quote t ++ r) = some (t, r) := by
    rw [quote_plain h, List.cons_append, List.append_assoc]
    exact readTo?_encodeDouble t r
  refine ⟨by rw [quote_plain h]; rfl, oneLine_quote t, ?_, hread h, fun s heq => ?_⟩
  · rw [quote_plain h, hasSubstitution_cons_of_ne (by decide), hasSubstitution_encodeDouble, h]
  · cases hs : hasSubstitution s with
    | true =>
      rw [quote_substitution hs, quote_plain h] at heq
      exact absurd (List.head_eq_of_cons_eq heq) (by decide)
    | false =>
      have hboth := hread hs []
      rw [heq, hread h []] at hboth
      exact (congrArg Prod.fst (Option.some.inj hboth)).symm

/-- Backslashes before a quotation mark, a line end and a letter that could be taken for one. -/
theorem readQuoted?_plain_escapes :
    hasSubstitution "\\\"\n\\n$" = false ∧
      quote "\\\"\n\\n$" = "\"\\\\\\\"\\n\\\\n$\"" ∧
      readQuoted? (quote "\\\"\n\\n$" ++ "\x7b\"") =
        some (Text.ofString "\\\"\n\\n$", Text.ofString "\x7b\"") :=
  ⟨by decide, by decide, (readQuoted?_plain (by decide)).2.2.2.1 _⟩

/-! ### Single quotes -/

/-- The number of backslashes at the end of a text. -/
def backslashes (t : Text) : Nat :=
  (t.reverse.takeWhile fun c : CodePoint => c = '\\').length

theorem backslashes_concat (t : Text) (c : CodePoint) :
    backslashes (t ++ [c]) = if c = '\\' then backslashes t + 1 else 0 := by
  rw [backslashes, List.reverse_append]
  split
  · next h => simp [h, backslashes]
  · next h => simp [h]

theorem odd_backslashes_concat (t : Text) (c : CodePoint) :
    decide (backslashes (t ++ [c]) % 2 = 1) = (c = '\\' && !decide (backslashes t % 2 = 1)) := by
  rw [backslashes_concat]
  by_cases hbackslash : c = '\\'
  · rw [if_pos hbackslash, ← decide_not]
    simp only [hbackslash, decide_true, Bool.true_and, decide_eq_decide]
    omega
  · simp [hbackslash]

/-- Does an apostrophe come after an odd number of backslashes? -/
def Strays (t : Text) : Prop :=
  ∃ s u, t = s ++ CodePoint.scalar '\'' :: u ∧ backslashes s % 2 = 1

theorem Strays.append {t : Text} (h : Strays t) (u : Text) : Strays (t ++ u) := by
  obtain ⟨s, v, rfl, hodd⟩ := h
  exact ⟨s, v ++ u, by simp, hodd⟩

/-- An apostrophe after an odd number of backslashes, before which there is none. -/
theorem Strays.exists_first {t : Text} (h : Strays t) :
    ∃ s u, t = s ++ CodePoint.scalar '\'' :: u ∧ ¬Strays s ∧ backslashes s % 2 = 1 := by
  induction t using List.reverseRecOn with
  | nil =>
    obtain ⟨s, u, heq, -⟩ := h
    exact absurd heq (by simp)
  | append_singleton t c ih =>
    by_cases ht : Strays t
    · obtain ⟨s, u, rfl, hs, hodd⟩ := ih ht
      exact ⟨s, u ++ [c], by simp, hs, hodd⟩
    · obtain ⟨s, u, heq, hodd⟩ := h
      rcases List.eq_nil_or_concat u with rfl | ⟨u, d, rfl⟩
      · obtain ⟨rfl, -⟩ := List.append_inj' heq rfl
        exact ⟨t, [], heq, ht, hodd⟩
      · have hcut : t ++ [c] = s ++ CodePoint.scalar '\'' :: u ++ [d] := by simpa using heq
        exact absurd ⟨s, u, (List.append_inj' hcut rfl).1, hodd⟩ ht

theorem mem_of_backslashes {t : Text} (h : backslashes t % 2 = 1) : CodePoint.scalar '\\' ∈ t := by
  rcases List.eq_nil_or_concat t with rfl | ⟨t, c, rfl⟩
  · exact absurd h (by decide)
  · rw [List.concat_eq_append, backslashes_concat] at h
    split at h
    · next hc => simp [hc]
    · exact absurd h (by decide)

theorem Strays.mem {t : Text} (h : Strays t) : CodePoint.scalar '\\' ∈ t := by
  obtain ⟨s, u, rfl, hodd⟩ := h
  exact List.mem_append_left _ (mem_of_backslashes hodd)

theorem count_map_flat (t : Text) :
    (t.map flat).count (.scalar '\\') = t.count (.scalar '\\') := by
  induction t with
  | nil => rfl
  | cons c t ih =>
    by_cases hbackslash : c = '\\'
    · subst hbackslash
      rw [List.map_cons, flat, List.count_cons_self, List.count_cons_self, ih]
      decide
    · rw [List.map_cons, List.count_cons_of_ne (flat_ne hbackslash (by decide)),
        List.count_cons_of_ne hbackslash, ih]

/-- What is read of one code point, after the backslash before it if there is one left over. -/
def readOne (escaped : Bool) (c : CodePoint) : Text :=
  if c = '\\' then if escaped then [c] else [] else [flat c]

/-- Reading one code point more: an apostrophe closes the token if it would be escaped without the
backslash of its own. -/
theorem readTo?_encodeSingle {escaped : Bool} {c : CodePoint} (h : c = '\'' → escaped = false)
    (t : Text) :
    readTo? '\'' id escaped (encodeSingle c ++ t) =
      (readTo? '\'' id (c = '\\' && !escaped) t).map fun p => (readOne escaped c ++ p.1, p.2) := by
  by_cases hquote : c = '\''
  · subst hquote
    obtain rfl := h rfl
    rfl
  rw [encodeSingle_eq hquote, List.singleton_append]
  by_cases hbackslash : c = '\\'
  · subst hbackslash
    cases escaped with
    | true => rfl
    | false => simp [readTo?, flat, readOne]
  · have hmark : flat c ≠ '\'' := flat_ne hquote (by decide)
    have hplain : flat c ≠ '\\' := flat_ne hbackslash (by decide)
    cases escaped with
    | true => simp [readTo?, readOne, hbackslash]
    | false => simp [readTo?, readOne, hbackslash, hmark, hplain]

/-- Reading what is written for a text without an apostrophe that strays. At least half of its
backslashes are not read. -/
theorem exists_read {t : Text} (h : ¬Strays t) :
    ∃ read : Text,
      2 * read.count (.scalar '\\') + backslashes t % 2 ≤ t.count (.scalar '\\') ∧
      (CodePoint.scalar '\\' ∉ t → read = t.map flat) ∧
      ∀ rest, readTo? '\'' id false (t.replaceEach encodeSingle ++ rest) =
        (readTo? '\'' id (backslashes t % 2 = 1) rest).map fun p => (read ++ p.1, p.2) := by
  induction t using List.reverseRecOn with
  | nil =>
    exact ⟨[], by simp [backslashes], fun _ => rfl,
      fun rest => by simp [Text.replaceEach, backslashes]⟩
  | append_singleton t c ih =>
    obtain ⟨read, hcount, hflat, hread⟩ := ih fun ht => h (ht.append [c])
    have hquote (hc : c = '\'') : decide (backslashes t % 2 = 1) = false := by
      rw [decide_eq_false_iff_not]
      exact fun hodd => h ⟨t, [], by rw [hc], hodd⟩
    refine ⟨read ++ readOne (backslashes t % 2 = 1) c, ?_, ?_, fun rest => ?_⟩
    · rw [backslashes_concat, List.count_append, List.count_append, readOne]
      by_cases hbackslash : c = '\\'
      · by_cases hodd : backslashes t % 2 = 1 <;> simp [hbackslash, hodd] <;> omega
      · have hplain : flat c ≠ '\\' := flat_ne hbackslash (by decide)
        simp [hbackslash, hplain]
        omega
    · intro hmem
      simp only [List.mem_append, List.mem_singleton, not_or] at hmem
      rw [hflat hmem.1, readOne, if_neg (Ne.symm hmem.2), List.map_append, List.map_singleton]
    · have hreplace : Text.replaceEach encodeSingle (t ++ [c]) ++ rest =
          Text.replaceEach encodeSingle t ++ (encodeSingle c ++ rest) := by
        simp [Text.replaceEach]
      rw [hreplace, hread, readTo?_encodeSingle hquote, ← odd_backslashes_concat, Option.map_map]
      congr 1
      funext p
      simp

section Substitution

variable {t : Text} (h : hasSubstitution t = true)

include h

theorem readQuoted?_quote :
    readQuoted? (quote t) =
      readTo? '\'' id false (t.replaceEach encodeSingle ++ [CodePoint.scalar '\'']) := by
  rw [quote_substitution h]
  rfl

/-- The backslash of an apostrophe that strays is read, and the apostrophe closes the quotes. -/
theorem readQuoted?_of_strays (hstrays : Strays t) :
    ∃ read rest, readQuoted? (quote t) = some (read, rest) ∧ rest ≠ [] := by
  obtain ⟨s, u, rfl, hs, hodd⟩ := hstrays.exists_first
  obtain ⟨read, -, -, hread⟩ := exists_read hs
  have hreplace : Text.replaceEach encodeSingle (s ++ CodePoint.scalar '\'' :: u) =
      Text.replaceEach encodeSingle s ++
        (CodePoint.scalar '\\' :: CodePoint.scalar '\'' :: Text.replaceEach encodeSingle u) := by
    simp [Text.replaceEach, encodeSingle, Text.ofString]
  refine ⟨read ++ [.scalar '\\'],
    Text.replaceEach encodeSingle u ++ [CodePoint.scalar '\''], ?_, by simp⟩
  rw [readQuoted?_quote h, hreplace, List.append_assoc, hread, decide_eq_true hodd]
  rfl

/-- The closing quote is escaped by a backslash of the text. -/
theorem readQuoted?_of_odd (hstrays : ¬Strays t) (hodd : backslashes t % 2 = 1) :
    readQuoted? (quote t) = none := by
  obtain ⟨read, -, -, hread⟩ := exists_read hstrays
  rw [readQuoted?_quote h, hread, decide_eq_true hodd]
  rfl

/-- The quotes are closed where they should be. Then something is missing from what is read, unless
there was no backslash. -/
theorem readQuoted?_of_even (hstrays : ¬Strays t) (heven : ¬backslashes t % 2 = 1) :
    ∃ read, readQuoted? (quote t) = some (read, []) ∧
      (read = t.map flat ↔ CodePoint.scalar '\\' ∉ t) := by
  obtain ⟨read, hcount, hflat, hread⟩ := exists_read hstrays
  refine ⟨read, ?_, fun heq hmem => ?_, hflat⟩
  · rw [readQuoted?_quote h, hread, decide_eq_false heven]
    simp [readTo?]
  · have hpos := List.count_pos_iff.mpr hmem
    rw [heq, count_map_flat] at hcount
    omega

/-- A text that would be taken for one with a variable in it is quoted between single quotes. Its line
is read, up to the last code point, exactly if the text holds no backslash. The quotes stay open
exactly if it ends in an odd number of backslashes and none of its apostrophes strays, and they are
closed too early exactly if one does. -/
theorem readQuoted?_substitution :
    (quote t).head? = some (.scalar '\'') ∧
      (readQuoted? (quote t) = some (t.map flat, []) ↔ CodePoint.scalar '\\' ∉ t) ∧
      (readQuoted? (quote t) = none ↔ ¬Strays t ∧ backslashes t % 2 = 1) ∧
      ((∃ read rest, readQuoted? (quote t) = some (read, rest) ∧ rest ≠ []) ↔ Strays t) := by
  refine ⟨by rw [quote_substitution h]; rfl, ?_⟩
  by_cases hstrays : Strays t
  · obtain ⟨read, rest, hread, hrest⟩ := readQuoted?_of_strays h hstrays
    simp [hread, hrest, hstrays, hstrays.mem]
  by_cases hodd : backslashes t % 2 = 1
  · simp [readQuoted?_of_odd h hstrays hodd, hstrays, hodd, mem_of_backslashes hodd]
  · obtain ⟨read, hread, hflat⟩ := readQuoted?_of_even h hstrays hodd
    simp [hread, hstrays, hodd, hflat]

end Substitution

/-- A backslash at the end leaves the quotes open, and one before an apostrophe closes them there. -/
theorem readQuoted?_substitution_backslash :
    (hasSubstitution "$\x7ba\x7d\\" = true ∧ readQuoted? (quote "$\x7ba\x7d\\") = none) ∧
      hasSubstitution "$\x7b\\'\x7d" = true ∧
        ∃ read rest, readQuoted? (quote "$\x7b\\'\x7d") = some (read, rest) ∧ rest ≠ [] := by
  have hopen : hasSubstitution "$\x7ba\x7d\\" = true := by decide
  have hclosed : hasSubstitution "$\x7b\\'\x7d" = true := by decide
  have hstrays : ¬Strays "$\x7ba\x7d\\" := by
    rintro ⟨s, u, heq, -⟩
    have hmem : CodePoint.scalar '\'' ∈ ("$\x7ba\x7d\\" : Text) := by
      rw [heq]
      simp
    exact absurd hmem (by decide)
  exact ⟨⟨hopen, (readQuoted?_substitution hopen).2.2.1.mpr ⟨hstrays, by decide⟩⟩, hclosed,
    (readQuoted?_substitution hclosed).2.2.2.mpr ⟨"$\x7b\\", "\x7d", rfl, by decide⟩⟩

end Script
end JqFlow
