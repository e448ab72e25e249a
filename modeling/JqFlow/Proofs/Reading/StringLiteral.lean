import JqFlow.Proofs.Reading.Spelling

/-!
# String literals

A code point can be written between quotes in several ways. However each code point of a text is
written, the whole is scanned as one string literal, whatever comes after it, and the literal stands
for the text.

## Main definitions

- `Quoted.Encodes`: a text with each of its code points written in one of the ways that are read

## Main statements

- `Quoted.Encodes.decode_eq`: what is written so stands for the text
- `Quoted.unquote_quote`: a quoted text stands for the text
- `Lexeme.stands_literal`: a string literal stands before anything
-/

namespace JqFlow
namespace Quoted

/-- The three ways in which a code point is written between double quotes. -/
inductive Encoded (c : CodePoint) : Text → Prop
  | plain (hquote : c ≠ .scalar '"') (hbackslash : c ≠ .scalar '\\') : Encoded c [c]
  | escape (x : CodePoint) (hx : x ≠ .scalar '\n') (hu : x ≠ .scalar 'u')
    (hmeans : simpleEscape? x = some c) : Encoded c [.scalar '\\', x]
  | digits (x y z w : CodePoint)
    (hplain : ∀ d ∈ [x, y, z, w], d ≠ .scalar '"' ∧ d ≠ .scalar '\\')
    (hmeans : fourDigits? x y z w = some c) :
    Encoded c [.scalar '\\', .scalar 'u', x, y, z, w]

/-- How a control character is written: with a letter or with its number. -/
def encodedRight (c : CodePoint) : Bool :=
  match encodeOne c with
  | [.scalar '\\', x] => x != .scalar '\n' && x != .scalar 'u' && simpleEscape? x == some c
  | [.scalar '\\', .scalar 'u', x, y, z, w] =>
    [x, y, z, w].all (fun d => d != .scalar '"' && d != .scalar '\\') &&
      fourDigits? x y z w == some c
  | _ => false

theorem encoded_of_right {c : CodePoint} (h : encodedRight c = true) :
    Encoded c (encodeOne c) := by
  unfold encodedRight at h
  split at h
  · next x heq =>
    rw [heq]
    simp only [Bool.and_eq_true, bne_iff_ne, beq_iff_eq] at h
    exact .escape x h.1.1 h.1.2 h.2
  · next x y z w heq =>
    rw [heq]
    simp only [Bool.and_eq_true, List.all_eq_true, bne_iff_ne, beq_iff_eq] at h
    exact .digits x y z w h.1 h.2
  · exact absurd h (by simp)

theorem encoded_control : (List.range 0x20).all
    (fun n => encodedRight (.scalar (Char.ofNat n))) = true := by
  decide +kernel

/-- Every code point is written in one of these ways. -/
theorem encoded (c : CodePoint) : Encoded c (encodeOne c) := by
  by_cases hquote : c = .scalar '"'
  · exact encoded_of_right (hquote ▸ by decide)
  by_cases hbackslash : c = .scalar '\\'
  · exact encoded_of_right (hbackslash ▸ by decide)
  by_cases hcontrol : c.toNat < 0x20
  · cases c with
    | surrogate i =>
      simp only [CodePoint.toNat] at hcontrol
      omega
    | scalar c =>
      have hright := List.all_eq_true.mp encoded_control c.toNat (List.mem_range.mpr hcontrol)
      rw [Char.ofNat_toNat] at hright
      exact encoded_of_right hright
  · have hplain : encodeOne c = [c] := by
      unfold encodeOne
      split
      · exact absurd rfl hquote
      · exact absurd rfl hbackslash
      · exact absurd hcontrol (by decide)
      · exact absurd hcontrol (by decide)
      · exact absurd hcontrol (by decide)
      · exact absurd hcontrol (by decide)
      · exact absurd hcontrol (by decide)
      · exact if_neg hcontrol
    rw [hplain]
    exact .plain hquote hbackslash

/-! ### Reading back -/

theorem decode_plain {c : CodePoint} (h : c ≠ .scalar '\\') (t : Text) :
    decode (c :: t) = c :: decode t := by
  rw [decode]
  · rintro x y z w u rfl
    exact absurd rfl h
  · rintro x u rfl
    exact absurd rfl h

/-- A text with each of its code points written in one of these ways. -/
inductive Encodes : Text → Text → Prop
  | nil : Encodes [] []
  | cons {c : CodePoint} {s t u : Text} (hc : Encoded c u) (h : Encodes s t) :
    Encodes (c :: s) (u ++ t)

namespace Encodes

theorem append {s s' t t' : Text} (h : Encodes s t) (h' : Encodes s' t') :
    Encodes (s ++ s') (t ++ t') := by
  induction h with
  | nil => exact h'
  | cons hc _ ih =>
    rw [List.append_assoc]
    exact .cons hc ih

theorem single {c : CodePoint} {u : Text} (h : Encoded c u) : Encodes [c] u :=
  List.append_nil u ▸ .cons h .nil

end Encodes

theorem encodes_encode (t : Text) : Encodes t (encode t) := by
  induction t with
  | nil => exact .nil
  | cons c t ih => exact .cons (encoded c) ih

theorem decode_encoded {c : CodePoint} {u : Text} (h : Encoded c u) (t : Text) :
    decode (u ++ t) = c :: decode t := by
  cases h with
  | plain hquote hbackslash => exact decode_plain hbackslash t
  | escape x hx hu hmeans =>
    simp only [List.cons_append, List.nil_append]
    rw [decode]
    · rw [hmeans]
    · rintro x' y z w u rfl
      exact absurd rfl hu
  | digits x y z w hplain hmeans =>
    simp only [List.cons_append, List.nil_append, decode, hmeans]

theorem Encodes.decode_eq {s t : Text} (h : Encodes s t) : decode t = s := by
  induction h with
  | nil => rfl
  | cons hc _ ih => rw [decode_encoded hc, ih]

/-- What is written between quotes. -/
theorem unquote_between (t : Text) : unquote ("\"" ++ t ++ "\"") = decode t := by
  have hdrop : List.drop 1 ("\"" ++ t ++ "\"" : Text) = t ++ [CodePoint.scalar '"'] := rfl
  rw [unquote, hdrop, List.dropLast_concat]

/-- A quoted text stands for the text. -/
theorem unquote_quote (t : Text) : unquote (quote t) = t :=
  (unquote_between (encode t)).trans (encodes_encode t).decode_eq

/-! ### Scanning -/

open Spelling (stringRest? string?)

theorem stringRest?_plain {c : CodePoint} (hquote : c ≠ .scalar '"')
    (hbackslash : c ≠ .scalar '\\') (t : Text) :
    stringRest? (c :: t) = (stringRest? t).map (c :: ·) := by
  rw [stringRest?]
  · exact hquote
  · rintro x u rfl
    exact absurd rfl hbackslash
  · intro hc
    exact absurd hc hbackslash

theorem stringRest?_encoded {c : CodePoint} {u : Text} (h : Encoded c u) (t : Text) :
    stringRest? (u ++ t) = (stringRest? t).map (u ++ ·) := by
  cases h with
  | plain hquote hbackslash => exact stringRest?_plain hquote hbackslash t
  | escape x hx hu hmeans =>
    simp only [List.cons_append, List.nil_append, stringRest?, if_neg hx]
  | digits x y z w hplain hmeans =>
    have hskip {d : CodePoint} (hd : d ∈ [x, y, z, w]) (u : Text) :
        stringRest? (d :: u) = (stringRest? u).map (d :: ·) :=
      stringRest?_plain (hplain d hd).1 (hplain d hd).2 u
    simp only [List.cons_append, List.nil_append]
    rw [stringRest?, if_neg (by decide), hskip (by simp), hskip (by simp), hskip (by simp),
      hskip (by simp)]
    cases stringRest? t <;> rfl

theorem Encodes.stringRest?_eq {s t : Text} (h : Encodes s t) (r : Text) :
    stringRest? (t ++ CodePoint.scalar '"' :: r) = some (t ++ [CodePoint.scalar '"']) := by
  induction h with
  | nil => rfl
  | cons hc _ ih =>
    rw [List.append_assoc, stringRest?_encoded hc, ih, List.append_assoc]
    rfl

/-- What is written between quotes is matched as a whole before anything. -/
theorem Encodes.string?_eq {s t : Text} (h : Encodes s t) (r : Text) :
    string? ("\"" ++ t ++ "\"" ++ r) = some ("\"" ++ t ++ "\"") := by
  have hquote : "\"" ++ t ++ "\"" ++ r =
      CodePoint.scalar '"' :: (t ++ CodePoint.scalar '"' :: r) := by
    simp [Text.ofString]
  rw [hquote, string?, h.stringRest?_eq]
  rfl

end Quoted

/-- What is written between quotes stands before anything. -/
theorem Lexeme.stands_literal {s t : Text} (h : Quoted.Encodes s t) (r : Text) :
    Stands ⟨.string, "\"" ++ t ++ "\""⟩ r := by
  have hrivals : Terminal.rivals .string (.scalar '"') = [] := by decide
  exact stands_of_rivals (c := .scalar '"') (u := t ++ "\"") (by decide) (by decide)
    (by decide) (h.string?_eq r) (by rw [hrivals]; simp)

/-- A quoted text stands before anything. -/
theorem Lexeme.stands_string (s t : Text) : Stands ⟨.string, Quoted.quote s⟩ t :=
  stands_literal (Quoted.encodes_encode s) t

end JqFlow
