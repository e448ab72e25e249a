import JqFlow.Proofs.Reading.Words
import Mathlib.Data.List.TakeWhile

/-!
# Which words stand where

A sign stands before whatever cannot make it longer, a name before whatever cannot be part of a name,
and a string literal before anything.

## Main definitions

- `Lexeme.of`: the token of a terminal that is always spelled the same
- `Text.Breaks`: a text that breaks off the word before it

## Main statements

- `Lexeme.stands_sign`, `Lexeme.stands_bracket`, `Lexeme.stands_keyword`, `Lexeme.stands_name`,
  `Lexeme.stands_number`: the kinds of words
-/

namespace JqFlow

/-- The token of a terminal that is always spelled the same. -/
def Lexeme.of (x : Terminal) : Lexeme :=
  ⟨x, x.literal?.getD []⟩

namespace Lexeme

theorem stands_of_rivals {x : Terminal} {c : CodePoint} {u t : Text}
    (horder : x ∈ Terminal.inMatchOrder) (hkept : x ∉ Terminal.ignored) (hident : x ≠ .ident)
    (hmatch : x.match? (c :: (u ++ t)) = some (c :: u))
    (hrivals : ∀ y ∈ x.rivals c, y.match? (c :: (u ++ t)) = none) :
    Stands ⟨x, c :: u⟩ t := by
  refine ⟨by simp, hkept, ?_⟩
  intro expects hexpects _
  have hscan := scan?_eq_some horder (.inl hexpects) hmatch fun y hy _ => hrivals y hy
  rwa [if_neg hident] at hscan

/-- The same where every rival can be seen not to match. -/
theorem stands_of_apart {x : Terminal} {c : CodePoint} {u t : Text}
    (horder : x ∈ Terminal.inMatchOrder) (hkept : x ∉ Terminal.ignored) (hident : x ≠ .ident)
    (hmatch : x.match? (c :: (u ++ t)) = some (c :: u))
    (hapart : (x.rivals c).all (fun y => (y.match? (c :: (u ++ t))).isNone) = true) :
    Stands ⟨x, c :: u⟩ t := by
  refine stands_of_rivals horder hkept hident hmatch ?_
  intro y hy
  exact Option.isNone_iff_eq_none.mp (List.all_eq_true.mp hapart y hy)

/-- A sign stands before a blank. -/
theorem stands_sign {x : Terminal} (hx : x ∈ Terminal.signs) (t : Text) :
    (of x).Stands (CodePoint.scalar ' ' :: t) := by
  cases x <;> first
    | exact absurd hx (by decide)
    | exact stands_of_apart (by decide) (by decide) (by decide) rfl rfl

/-- The signs that cannot be made longer. -/
def brackets : List Terminal :=
  [.openBracket, .closeBracket, .openParen, .closeParen, .openBrace, .closeBrace, .comma,
    .semicolon, .colon, .question, .dotDot]

/-- A bracket or a mark stands before anything. -/
theorem stands_bracket {x : Terminal} (hx : x ∈ brackets) (t : Text) : (of x).Stands t := by
  cases x <;> first
    | exact absurd hx (by decide)
    | exact stands_of_apart (by decide) (by decide) (by decide) rfl rfl

/-- A sign that only a sign of equality makes longer stands before what is none. -/
theorem stands_unequal {x y : Terminal} {c : CodePoint} (horder : x ∈ Terminal.inMatchOrder)
    (hkept : x ∉ Terminal.ignored) (hx : x.literal? = some [c])
    (hy : y.literal? = some [c, .scalar '=']) (hrivals : x.rivals c = [y]) {t : Text}
    (h : t.head? ≠ some (CodePoint.scalar '=')) : (of x).Stands t := by
  have hident : x ≠ .ident := by
    rintro rfl
    exact absurd hx (by simp [Terminal.literal?])
  have hof : of x = ⟨x, [c]⟩ := by rw [of, hx, Option.getD_some]
  rw [hof]
  refine stands_of_rivals (u := []) horder hkept hident (by simp [Terminal.match?_literal hx]) ?_
  intro z hz
  obtain rfl : z = y := List.mem_singleton.mp (hrivals ▸ hz)
  rw [Terminal.match?_literal hy, if_neg]
  rintro ⟨u, hu⟩
  obtain rfl : .scalar '=' :: u = t := by simpa using hu
  exact h rfl

/-- A minus stands before what is not a sign of equality. -/
theorem stands_minus {t : Text} (h : t.head? ≠ some (CodePoint.scalar '=')) :
    (of .minus).Stands t :=
  stands_unequal (y := .minusEqual) (by decide) (by decide) rfl rfl (by decide) h

/-- So does a bar. -/
theorem stands_bar {t : Text} (h : t.head? ≠ some (CodePoint.scalar '=')) :
    (of .bar).Stands t :=
  stands_unequal (y := .barEqual) (by decide) (by decide) rfl rfl (by decide) h

/-- A dot stands before what is neither a dot nor the beginning of a name. -/
theorem stands_dot {t : Text} (h : t.head? ≠ some (CodePoint.scalar '.'))
    (hname : Spelling.plainName? t = none) : (of .dot).Stands t := by
  refine stands_of_rivals (by decide) (by decide) (by decide) rfl ?_
  intro y hy
  rcases List.mem_cons.mp (show y ∈ [Terminal.field, .dotDot] from hy) with rfl | hy
  · simp [Terminal.match?, Spelling.signed?, hname]
  · have hrival : y = .dotDot := List.mem_singleton.mp hy
    subst hrival
    cases t with
    | nil => rfl
    | cons c t =>
      have hc : c ≠ CodePoint.scalar '.' := fun heq => h (congrArg some heq)
      simp [Terminal.match?, Terminal.literal?, Text.ofString, Ne.symm hc]

end Lexeme

/-! ### Texts that break off the word before them -/

namespace Text

/-- The code points that break off the word before them. -/
def breakers : List CodePoint :=
  [CodePoint.scalar ' ', .scalar ',', .scalar ')', .scalar ']', .scalar ':', .scalar ';',
    .scalar '\x7d', .scalar '(', .scalar '[', .scalar '\t', .scalar '\x0c', .scalar '\r',
    .scalar '\n', .scalar '#']

/-- A text that breaks off the word before it: it is empty or begins with such a code point. A colon
does not break off a name where another comes after it. -/
def Breaks : Text → Prop
  | [] => True
  | c :: rest => c ∈ breakers ∧ (c = .scalar ':' → rest.head? ≠ some (.scalar ':'))

theorem Breaks.takeWhile_eq_nil {p : CodePoint → Bool} {t : Text} (ht : t.Breaks)
    (hp : breakers.all (fun c => !p c) = true) : t.takeWhile p = [] := by
  cases t with
  | nil => rfl
  | cons c rest =>
    have hc := List.all_eq_true.mp hp c ht.1
    simp_all

theorem takeWhile_append_of_nil {p : CodePoint → Bool} {t : Text} (ht : t.takeWhile p = [])
    (u : Text) : (u ++ t).takeWhile p = u.takeWhile p := by
  rw [List.takeWhile_append]
  split
  · next hall =>
    rw [ht, List.append_nil]
    exact ((List.takeWhile_prefix p).eq_of_length hall).symm
  · rfl

theorem Breaks.takeWhile_append {p : CodePoint → Bool} {t : Text} (ht : t.Breaks)
    (hp : breakers.all (fun c => !p c) = true) (u : Text) :
    (u ++ t).takeWhile p = u.takeWhile p :=
  takeWhile_append_of_nil (ht.takeWhile_eq_nil hp) u

theorem Breaks.head_ne {t : Text} (ht : t.Breaks) {c : CodePoint} (hc : c ∉ breakers) :
    t.head? ≠ some c := by
  cases t with
  | nil => simp
  | cons d rest =>
    intro h
    exact hc (Option.some.inj h ▸ ht.1)

end Text

namespace Spelling

open Text (Breaks)

theorem plainName?_append {t : Text} (ht : t.Breaks) (u : Text) :
    plainName? (u ++ t) = plainName? u := by
  cases u with
  | nil =>
    cases t with
    | nil => rfl
    | cons c rest =>
      have hstart : Text.breakers.all (fun c => !isNameStart c) = true := by decide
      have hc := List.all_eq_true.mp hstart c ht.1
      simp_all [plainName?]
  | cons c u => simp only [List.cons_append, plainName?, ht.takeWhile_append (p := isNamePart) (by decide)]

/-- No further part of a name comes at the beginning of a text that breaks off a word. -/
theorem nameParts_breaks {t : Text} (ht : t.Breaks) (fuel : Nat) : nameParts fuel t = [] := by
  unfold nameParts
  split
  · next rest =>
    exact absurd rfl (ht.2 rfl)
  · rfl

theorem plainName?_prefix {t first : Text} (h : plainName? t = some first) :
    ∃ rest, t = first ++ rest := by
  cases t with
  | nil => exact absurd h (by simp [plainName?])
  | cons c t =>
    rw [plainName?] at h
    split at h
    · refine ⟨t.dropWhile isNamePart, ?_⟩
      rw [← Option.some.inj h, List.cons_append, List.takeWhile_append_dropWhile]
    · exact absurd h (by simp)

theorem nameParts_isPrefix (n : Nat) (t : Text) : nameParts n t <+: t := by
  induction n generalizing t with
  | zero => exact List.nil_prefix
  | succ n ih =>
    unfold nameParts
    split
    · next k rest hk =>
      obtain rfl : n = k := Nat.succ.inj hk
      split
      · next part hpart =>
        obtain ⟨more, rfl⟩ := plainName?_prefix hpart
        rw [List.drop_left' rfl, List.append_assoc]
        have hpart := (List.prefix_append_right_inj part).mpr (ih more)
        exact (List.prefix_append_right_inj "::").mpr hpart
      · exact List.nil_prefix
    · exact List.nil_prefix

/-- A name is read at the beginning of the text. -/
theorem name?_isPrefix {t text : Text} (h : name? t = some text) : text <+: t := by
  obtain ⟨first, hfirst, rfl⟩ := Option.map_eq_some_iff.mp h
  obtain ⟨rest, rfl⟩ := plainName?_prefix hfirst
  rw [List.drop_left' rfl]
  exact (List.prefix_append_right_inj first).mpr (nameParts_isPrefix _ rest)

theorem nameParts_part {part more : Text} (h : plainName? (part ++ more) = some part) (n : Nat) :
    nameParts (n + 1) (.scalar ':' :: .scalar ':' :: (part ++ more)) =
      .scalar ':' :: .scalar ':' :: (part ++ nameParts n more) := by
  simp only [nameParts, h]
  rw [List.drop_left' rfl]
  rfl

/-- A name has a further part, or nothing follows that could be one. -/
theorem nameParts_cases (n : Nat) (t : Text) :
    (∃ part more, t = .scalar ':' :: .scalar ':' :: (part ++ more) ∧
      plainName? (part ++ more) = some part) ∨
    (nameParts (n + 1) t = [] ∧
      ∀ rest, t = .scalar ':' :: .scalar ':' :: rest → plainName? rest = none) := by
  unfold nameParts
  split
  · next k rest hk =>
    cases hpart : plainName? rest with
    | none => exact .inr ⟨rfl, by simp [hpart]⟩
    | some part =>
      obtain ⟨more, rfl⟩ := plainName?_prefix hpart
      exact .inl ⟨part, more, rfl, hpart⟩
  · next hother => exact .inr ⟨rfl, fun rest ht => absurd ht (hother n rest rfl)⟩

/-- The further parts of a name end before a text that breaks them off. Where it begins with a colon,
no single colon may stand before it. -/
theorem nameParts_append {t : Text} (ht : t.Breaks) {m n : Nat} {u : Text}
    (hcolon : t.head? = some (.scalar ':') → u ≠ nameParts m u ++ ":")
    (hm : u.length ≤ m) (hn : u.length ≤ n) : nameParts n (u ++ t) = nameParts m u := by
  induction m generalizing n u with
  | zero =>
    rw [List.length_eq_zero_iff.mp (Nat.le_zero.mp hm)]
    exact nameParts_breaks ht n
  | succ m ih =>
    rcases nameParts_cases m u with ⟨part, more, rfl, hpart⟩ | ⟨hparts, hnone⟩
    · obtain ⟨n, rfl⟩ : ∃ k, n = k + 1 := ⟨n - 1, by simp at hn; omega⟩
      have hpart' : plainName? (part ++ (more ++ t)) = some part := by
        rw [← List.append_assoc, plainName?_append ht, hpart]
      rw [nameParts_part hpart] at hcolon ⊢
      rw [List.cons_append, List.cons_append, List.append_assoc, nameParts_part hpart',
        ih (fun h heq => hcolon h ?_) (by simp at hm; omega) (by simp at hn; omega)]
      rw [List.cons_append, List.cons_append, List.append_assoc, ← heq]
    · rw [hparts] at hcolon ⊢
      cases n with
      | zero =>
        rw [List.length_eq_zero_iff.mp (Nat.le_zero.mp hn)]
        rfl
      | succ n =>
        rcases nameParts_cases n (u ++ t) with ⟨part, more, heq, hpart⟩ | ⟨hparts', -⟩
        · -- Both colons would stand before the text that breaks the name off, or both in it.
          match u with
          | [] =>
            rw [List.nil_append] at heq
            exact absurd rfl ((heq ▸ ht).2 rfl)
          | [c] =>
            obtain ⟨rfl, rfl⟩ := List.cons.inj heq
            exact absurd rfl (hcolon rfl)
          | c :: d :: rest =>
            simp only [List.cons_append, List.cons.injEq] at heq
            obtain ⟨rfl, rfl, heq⟩ := heq
            have hrest := hnone rest rfl
            rw [← plainName?_append ht, heq, hpart] at hrest
            exact absurd hrest (by simp)
        · exact hparts'

/-- A name ends before a text that breaks it off. Where that begins with a colon, no single colon may
come after the name. -/
theorem name?_append {t u name : Text} (ht : t.Breaks) (h : name? u = some name)
    (hcolon : t.head? = some (.scalar ':') → u ≠ name ++ ":") : name? (u ++ t) = some name := by
  simp only [name?, plainName?_append ht, Option.map_eq_some_iff] at h ⊢
  obtain ⟨first, hfirst, rfl⟩ := h
  refine ⟨first, hfirst, ?_⟩
  obtain ⟨more, rfl⟩ := plainName?_prefix hfirst
  rw [List.drop_left' rfl] at hcolon ⊢
  have hparts : nameParts (first ++ more ++ t).length (more ++ t) =
      nameParts (first ++ more).length more := by
    refine nameParts_append ht (fun h heq => hcolon h ?_) (by simp) (by simp; omega)
    rw [List.append_assoc, ← heq]
  rw [List.append_assoc, List.drop_left' rfl, ← List.append_assoc, hparts]

/-! ### Numbers -/

theorem digits_append {t : Text} (ht : t.Breaks) (u : Text) : digits (u ++ t) = digits u :=
  ht.takeWhile_append (by decide) u

theorem fraction_append {t : Text} (ht : t.Breaks) (u : Text) :
    fraction (u ++ t) = fraction u := by
  have hother (c : CodePoint) (hc : c ≠ .scalar '.') (v : Text) : fraction (c :: v) = [] := by
    unfold fraction
    split <;> simp_all
  cases u with
  | nil =>
    cases t with
    | nil => rfl
    | cons c rest =>
      refine hother c ?_ rest
      rintro rfl
      exact absurd ht.1 (by decide)
  | cons c u =>
    by_cases hc : c = .scalar '.'
    · subst hc
      simp only [List.cons_append, fraction, digits_append ht]
    · rw [List.cons_append, hother c hc, hother c hc]

theorem fraction_length_le (t : Text) : (fraction t).length ≤ t.length := by
  unfold fraction
  split
  · split
    · exact Nat.zero_le _
    · next rest _ =>
      have := (List.takeWhile_prefix CodePoint.isDecimalDigit (l := rest)).length_le
      simp only [Text.ofString, digits, List.length_append, List.length_cons]
      simpa [Nat.add_comm] using this
  · exact Nat.zero_le _

theorem exponent_append {t : Text} (ht : t.Breaks) (u : Text) :
    exponent (u ++ t) = exponent u := by
  cases u with
  | nil =>
    cases t with
    | nil => rfl
    | cons c rest =>
      have hletter : Text.breakers.all (fun c => !(c = .scalar 'e' || c = .scalar 'E')) = true := by
        decide
      have hc := List.all_eq_true.mp hletter c ht.1
      simp_all [exponent]
  | cons c u =>
    simp only [List.cons_append, exponent]
    split
    · cases u with
      | nil =>
        have hsign : (t.take 1).takeWhile
            (fun s => decide (s = .scalar '+') || decide (s = .scalar '-')) = [] := by
          cases t with
          | nil => rfl
          | cons d rest =>
            have hsigns : Text.breakers.all
                (fun s => !(s = .scalar '+' || s = .scalar '-')) = true := by decide
            have hd := List.all_eq_true.mp hsigns d ht.1
            simp_all
        have hdigits : digits t = digits [] := digits_append ht []
        simp only [List.nil_append, hsign, List.take_nil, List.takeWhile_nil, List.length_nil,
          List.drop_zero, List.drop_nil, hdigits]
      | cons d u =>
        by_cases hd : d = .scalar '+' ∨ d = .scalar '-'
        · have hdigits := digits_append ht u
          simp_all
        · have hdigits := digits_append ht (d :: u)
          simp_all
    · rfl

theorem number?_append {t : Text} (ht : t.Breaks) (u : Text) :
    number? (u ++ t) = number? u := by
  have hwhole : (digits u).length ≤ u.length := (List.takeWhile_prefix _).length_le
  have hfraction := fraction_length_le (u.drop (digits u).length)
  rw [List.length_drop] at hfraction
  simp only [number?, digits_append ht]
  split
  · rfl
  · rw [List.drop_append_of_le_length hwhole, fraction_append ht,
      List.drop_append_of_le_length (by omega), exponent_append ht]

end Spelling

/-! ### Words of an open-ended spelling -/

namespace Spelling

/-- A digit does not begin a name. -/
theorem isNameStart_eq_false {c : CodePoint} (h : c.isDecimalDigit = true) :
    isNameStart c = false := by
  cases c with
  | surrogate i => rfl
  | scalar c =>
    have hnat : c.toNat < 65 ∨ 128 ≤ c.toNat := by
      simp only [CodePoint.isDecimalDigit, Bool.or_eq_true, Bool.and_eq_true,
        CodePoint.isAsciiDigit_scalar] at h
      rcases h with h | ⟨h, -⟩
      · omega
      · exact .inr (of_decide_eq_true h)
    have hletter : (CodePoint.scalar c).isAsciiLetter = false := by
      rw [Bool.eq_false_iff, ne_eq, CodePoint.isAsciiLetter_scalar]
      omega
    have hunderscore : c ≠ '_' := by
      rintro rfl
      exact absurd hnat (by decide)
    simp [isNameStart, hletter, hunderscore]

theorem plainName?_eq_some {u : Text} : plainName? u = some u ↔ u.isPlainName = true := by
  cases u with
  | nil => simp [plainName?, Text.isPlainName]
  | cons c u =>
    have hpart : (fun d => d.isAsciiLetter || d.isAsciiDigit || decide (d = .scalar '_')) =
        isNamePart := rfl
    rw [plainName?, Text.isPlainName, hpart, Bool.and_eq_true]
    constructor
    · intro h
      split at h
      · next hstart =>
        refine ⟨hstart, ?_⟩
        have htake := (List.cons.inj (Option.some.inj h)).2
        exact List.all_eq_true.mpr fun d hd => List.takeWhile_eq_self_iff.mp htake d hd
      · exact absurd h (by simp)
    · rintro ⟨hstart, hall⟩
      have hstart : isNameStart c = true := hstart
      rw [if_pos hstart, List.takeWhile_eq_self_iff.mpr (List.all_eq_true.mp hall)]

theorem name?_of_isPlainName {u : Text} (h : u.isPlainName = true) : name? u = some u := by
  simp [name?, plainName?_eq_some.mpr h, nameParts_breaks (t := []) trivial]

/-- A name begins with a letter or an underscore. -/
theorem name?_head {u v : Text} (h : name? u = some v) : ∃ c t, u = c :: t ∧ isNameStart c = true := by
  cases u with
  | nil => exact absurd h (by simp [name?, plainName?])
  | cons c t =>
    refine ⟨c, t, rfl, ?_⟩
    by_contra hc
    simp [name?, plainName?, hc] at h

end Spelling

namespace Lexeme

open Text (Breaks)
open Spelling

theorem rivals_ident {c : CodePoint} (hc : isNameStart c = true) :
    Terminal.rivals .ident c = [] := by
  have hne : c ≠ .scalar '.' ∧ c ≠ .scalar '$' ∧ c ≠ .scalar '@' := by
    refine ⟨?_, ?_, ?_⟩ <;> rintro rfl <;> exact absurd hc (by decide)
  show [Terminal.field, .varName, .format].filter (fun y => y.begins c) = []
  simp [Terminal.begins, hne]

/-- A name is scanned as a name or as a keyword that is expected. -/
theorem scan?_name {expects : Terminal → Bool} (hexpects : expects .ident = true) {u t : Text}
    (h : name? u = some u) (ht : t.Breaks) :
    scan? expects (u ++ t) = some ⟨promote expects u, u⟩ := by
  obtain ⟨c, v, rfl, hc⟩ := name?_head h
  have hmatch : Terminal.match? .ident (c :: (v ++ t)) = some (c :: v) :=
    name?_append ht h fun _ heq => by simp [Text.ofString] at heq
  refine scan?_eq_some (x := .ident) (by decide) (.inl hexpects) hmatch ?_
  rw [rivals_ident hc]
  exact fun _ hy => absurd hy List.not_mem_nil

theorem stands_name {u t : Text} (h : name? u = some u) (ht : t.Breaks) :
    Stands ⟨.ident, u⟩ t := by
  refine ⟨?_, by simp [Terminal.ignored], ?_⟩
  · obtain ⟨c, v, rfl, -⟩ := name?_head h
    simp
  · intro expects hexpects hpromote
    rw [scan?_name hexpects h ht]
    simp only [Option.some.injEq, Lexeme.mk.injEq, and_true]
    exact hpromote rfl

/-- Does no other terminal but a name match what a keyword begins? -/
def lone (k : Terminal) (c : CodePoint) (u t : Text) : Bool :=
  (k.rivals c).all fun y => y == .ident || (y.match? (c :: (u ++ t))).isNone

theorem stands_keyword {k : Terminal} (hk : k ∈ Terminal.keywords) {t : Text} (ht : t.Breaks) :
    (of k).Stands t := by
  obtain ⟨c, u, hliteral, hname, hkeyword, hmatch, hlone⟩ : ∃ c u, k.literal? = some (c :: u) ∧
      Text.isPlainName (c :: u) = true ∧ Terminal.keyword? (c :: u) = some k ∧
      k.match? (c :: (u ++ t)) = some (c :: u) ∧ lone k c u t = true := by
    cases k <;> first
      | exact absurd hk (by decide)
      | exact ⟨_, _, rfl, by decide, by decide, rfl, rfl⟩
  have hof : of k = ⟨k, c :: u⟩ := by
    rw [of, hliteral]
    rfl
  have hident : k ≠ .ident := by
    rintro rfl
    exact absurd hk (by decide)
  have hkept : k ∉ Terminal.ignored := by
    intro h
    rcases List.mem_cons.mp h with rfl | h
    · exact absurd hk (by decide)
    · rw [List.mem_singleton.mp h] at hk
      exact absurd hk (by decide)
  rw [hof]
  refine ⟨by simp, hkept, ?_⟩
  · intro expects hexpects _
    by_cases hname' : expects .ident = true
    · -- Where a name can stand too, the whole name has to be the keyword.
      rw [scan?_name hname' (name?_of_isPlainName hname) ht]
      simp [promote, hkeyword, hexpects]
    · have hscan := @scan?_eq_some expects k c (u ++ t) (c :: u)
        (List.mem_append_right _ hk) (.inl hexpects) hmatch ?_
      · rwa [if_neg hident] at hscan
      · intro y hy htried
        have hy := List.all_eq_true.mp hlone y hy
        simp only [Bool.or_eq_true, beq_iff_eq, Option.isNone_iff_eq_none] at hy
        rcases hy with rfl | hy
        · rcases htried with h | h
          · exact absurd h hname'
          · exact absurd h (by decide)
        · exact hy

theorem stands_field {u t : Text} (h : u.isPlainName = true) (ht : t.takeWhile isNamePart = []) :
    Stands ⟨.field, .scalar '.' :: u⟩ t := by
  have hrivals : Terminal.rivals .field (.scalar '.') = [] := by decide
  have hname : plainName? (u ++ t) = some u := by
    rw [← plainName?_eq_some] at h
    cases u with
    | nil => exact absurd h (by simp [plainName?])
    | cons c u => rwa [List.cons_append, plainName?, Text.takeWhile_append_of_nil ht]
  refine stands_of_rivals (by decide) (by decide) (by decide) ?_ (by rw [hrivals]; simp)
  simp [Terminal.match?, signed?, hname]

theorem stands_varName {u t : Text} (h : u.isPlainName = true) (ht : t.Breaks) :
    Stands ⟨.varName, .scalar '$' :: u⟩ t := by
  have hrivals : Terminal.rivals .varName (.scalar '$') = [] := by decide
  refine stands_of_rivals (by decide) (by decide) (by decide) ?_ (by rw [hrivals]; simp)
  simp [Terminal.match?, signed?, plainName?_append ht, plainName?_eq_some.mpr h]

theorem stands_format {u t : Text} (h : u ≠ []) (hpart : u.all isNamePart = true)
    (ht : t.Breaks) : Stands ⟨.format, .scalar '@' :: u⟩ t := by
  have hrivals : Terminal.rivals .format (.scalar '@') = [] := by decide
  have htake : (u ++ t).takeWhile isNamePart = u := by
    rw [ht.takeWhile_append (by decide), List.takeWhile_eq_self_iff]
    exact List.all_eq_true.mp hpart
  refine stands_of_rivals (by decide) (by decide) (by decide) ?_ (by rw [hrivals]; simp)
  simp [Terminal.match?, format?, htake, h]

theorem stands_number {u t : Text} (h : number? u = some u) (ht : t.Breaks) :
    Stands ⟨.number, u⟩ t := by
  obtain ⟨c, v, rfl⟩ : ∃ c v, u = c :: v := by
    cases u with
    | nil => exact absurd h (by decide)
    | cons c v => exact ⟨c, v, rfl⟩
  have hdigit : c.isDecimalDigit = true := by
    by_contra hc
    simp [number?, digits, hc] at h
  have hrivals : Terminal.rivals .number c = [] := by
    have hne : c ≠ .scalar '.' ∧ c ≠ .scalar '$' ∧ c ≠ .scalar '@' := by
      refine ⟨?_, ?_, ?_⟩ <;> rintro rfl <;> exact absurd hdigit (by decide)
    show [Terminal.field, .varName, .format, .ident].filter (fun y => y.begins c) = []
    simp [Terminal.begins, hne, isNameStart_eq_false hdigit]
  refine stands_of_rivals (by decide) (by decide) (by decide) ?_ (by rw [hrivals]; simp)
  exact (number?_append ht (c :: v)).trans h

end Lexeme

end JqFlow
