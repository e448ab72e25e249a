import JqFlow.Proofs.Reading.Terms

/-!
# String literals as JSON writes them

A JSON string has many spellings: a character stands for itself, or a letter or the four digits of its
number stand for it after a backslash. A character beyond U+FFFF has no number of four digits; JSON
writes those of two surrogates for it.

## Main definitions

- `Json.Writes`: the ways in which JSON writes a character
- `Json.Spells`: what JSON writes between quotes for a text

## Main statements

- `Query.parse_jsonLiteral`: what a JSON string is read as

## Design notes

Each escape is read as one code point, so the two escapes of a pair are read as two surrogates. This
is the only way in which the text that is read differs from the one that JSON means.
-/

namespace JqFlow
namespace Json

/-- A hexadecimal digit in either case. -/
def HexDigit (n : Nat) (c : CodePoint) : Prop :=
  n < 16 ∧ (c = .scalar n.digitChar ∨ c = .scalar n.digitChar.toUpper)

instance (n : Nat) (c : CodePoint) : Decidable (HexDigit n c) :=
  inferInstanceAs (Decidable (n < 16 ∧ (c = .scalar n.digitChar ∨ c = .scalar n.digitChar.toUpper)))

/-- Four hexadecimal digits of a number. -/
inductive Hex4 : Nat → Text → Prop
  | digits {a b c d : Nat} {x y z w : CodePoint} (hx : HexDigit a x) (hy : HexDigit b y)
    (hz : HexDigit c z) (hw : HexDigit d w) :
    Hex4 (((a * 16 + b) * 16 + c) * 16 + d) [x, y, z, w]

/-- The characters that a letter after a backslash stands for, with the letters. -/
def shortEscapes : List (Char × Char) :=
  [('"', '"'), ('\\', '\\'), ('/', '/'), ('\x08', 'b'), ('\x0c', 'f'), ('\n', 'n'), ('\r', 'r'),
    ('\t', 't')]

/-- The index of the first surrogate of a character beyond U+FFFF. -/
def leadIndex (c : Char) : Nat := (c.toNat - 0x10000) / 0x400

/-- The index of the second surrogate of a character beyond U+FFFF. -/
def trailIndex (c : Char) : Nat := 0x400 + (c.toNat - 0x10000) % 0x400

/-- The ways in which JSON writes a character, and whether a pair of surrogates is written. -/
inductive Writes (c : Char) : Bool → Text → Prop
  | raw (hcontrol : 0x20 ≤ c.toNat) (hquote : c ≠ '"') (hbackslash : c ≠ '\\') :
    Writes c false [.scalar c]
  | short {x : Char} (h : (c, x) ∈ shortEscapes) : Writes c false [.scalar '\\', .scalar x]
  | number {u : Text} (h : Hex4 c.toNat u) : Writes c false ("\\u" ++ u)
  | pair {u v : Text} (hc : 0x10000 ≤ c.toNat) (hu : Hex4 (0xD800 + leadIndex c) u)
    (hv : Hex4 (0xD800 + trailIndex c) v) : Writes c true ("\\u" ++ u ++ ("\\u" ++ v))

/-- What JSON writes between quotes for the characters of a text. Beside each character stands
whether it is written as a pair of surrogates. -/
inductive Spells : List (Char × Bool) → Text → Prop
  | nil : Spells [] []
  | cons {c : Char} {paired : Bool} {s : List (Char × Bool)} {u t : Text}
    (hc : Writes c paired u) (h : Spells s t) : Spells ((c, paired) :: s) (u ++ t)

/-- The text that JSON means. -/
def meant (s : List (Char × Bool)) : Text :=
  s.map fun p => .scalar p.1

/-- What a character is read as, when it is written as a pair of surrogates or not. -/
def readOne (p : Char × Bool) : Text :=
  if p.2 then [.surrogate (Fin.ofNat _ (leadIndex p.1)), .surrogate (Fin.ofNat _ (trailIndex p.1))]
  else [.scalar p.1]

/-! ### Digits -/

theorem HexDigit.hexValue? {n : Nat} {c : CodePoint} (h : HexDigit n c) : c.hexValue? = some n := by
  have hall : ∀ n < 16, (CodePoint.scalar n.digitChar).hexValue? = some n ∧
      (CodePoint.scalar n.digitChar.toUpper).hexValue? = some n := by decide
  obtain ⟨hn, rfl | rfl⟩ := h
  · exact (hall n hn).1
  · exact (hall n hn).2

theorem HexDigit.plain {n : Nat} {c : CodePoint} (h : HexDigit n c) :
    c ≠ .scalar '"' ∧ c ≠ .scalar '\\' := by
  have hvalue := h.hexValue?
  constructor <;> rintro rfl <;> exact absurd hvalue (by simp [CodePoint.hexValue?])

theorem Hex4.encoded {n : Nat} {u : Text} (h : Hex4 n u) {c : CodePoint}
    (hc : CodePoint.ofNat? n = some c) : Quoted.Encoded c ("\\u" ++ u) := by
  cases h with
  | digits hx hy hz hw =>
    refine .digits _ _ _ _ ?_ ?_
    · simp only [List.mem_cons, List.not_mem_nil, or_false]
      rintro d (rfl | rfl | rfl | rfl)
      · exact hx.plain
      · exact hy.plain
      · exact hz.plain
      · exact hw.plain
    · simp only [Quoted.fourDigits?, hx.hexValue?, hy.hexValue?, hz.hexValue?, hw.hexValue?]
      exact hc

theorem ofNat?_toNat (c : Char) : CodePoint.ofNat? c.toNat = some (.scalar c) := by
  have hvalid : c.toNat.isValidChar := c.valid
  rw [CodePoint.ofNat?, dif_pos hvalid]
  rfl

theorem ofNat?_surrogate {i : Nat} (hi : i < 0x800) :
    CodePoint.ofNat? (0xD800 + i) = some (.surrogate (Fin.ofNat _ i)) := by
  have hvalid : ¬ (0xD800 + i).isValidChar := by
    simp only [Nat.isValidChar]
    omega
  rw [CodePoint.ofNat?, dif_neg hvalid, dif_pos (by omega)]
  simp only [Option.some.injEq, CodePoint.surrogate.injEq, Fin.ext_iff, Fin.val_ofNat]
  omega

theorem leadIndex_lt (c : Char) : leadIndex c < 0x800 := by
  have hvalid : c.toNat.isValidChar := c.valid
  simp only [Nat.isValidChar] at hvalid
  simp only [leadIndex]
  omega

theorem trailIndex_lt (c : Char) : trailIndex c < 0x800 := by
  simp only [trailIndex]
  omega

/-! ### What is read -/

theorem encoded_of_mem {c x : Char} (h : (c, x) ∈ shortEscapes) :
    Quoted.Encoded c [.scalar '\\', .scalar x] := by
  have hall : ∀ p ∈ shortEscapes, CodePoint.scalar p.2 ≠ .scalar '\n' ∧
      CodePoint.scalar p.2 ≠ .scalar 'u' ∧
        Quoted.simpleEscape? (.scalar p.2) = some (.scalar p.1) := by decide
  obtain ⟨hline, hu, hmeans⟩ := hall _ h
  exact .escape _ hline hu hmeans

theorem Writes.encodes {c : Char} {paired : Bool} {u : Text} (h : Writes c paired u) :
    Quoted.Encodes (readOne (c, paired)) u := by
  cases h with
  | raw hcontrol hquote hbackslash =>
    exact .single (.plain (by simpa using hquote) (by simpa using hbackslash))
  | short h => exact .single (encoded_of_mem h)
  | number h => exact .single (h.encoded (ofNat?_toNat c))
  | pair hc hu hv =>
    exact (Quoted.Encodes.single (hu.encoded (ofNat?_surrogate (leadIndex_lt c)))).append
      (.single (hv.encoded (ofNat?_surrogate (trailIndex_lt c))))

theorem Spells.encodes {s : List (Char × Bool)} {t : Text} (h : Spells s t) :
    Quoted.Encodes (s.flatMap readOne) t := by
  induction h with
  | nil => exact .nil
  | cons hc _ ih => exact hc.encodes.append ih

/-- Only pairs are read as surrogates. -/
theorem scalar_flatMap_iff (s : List (Char × Bool)) :
    (∀ c ∈ s.flatMap readOne, c.toChar?.isSome = true) ↔ ∀ p ∈ s, p.2 = false := by
  have hone (p : Char × Bool) : (∀ c ∈ readOne p, c.toChar?.isSome = true) ↔ p.2 = false := by
    cases hp : p.2 <;> simp [readOne, hp, CodePoint.toChar?]
  simp only [← hone, List.mem_flatMap, forall_exists_index, and_imp]
  exact ⟨fun h p hp c hc => h c p hp hc, fun h c p hp hc => h p hp c hc⟩

theorem flatMap_eq_meant_iff (s : List (Char × Bool)) :
    s.flatMap readOne = meant s ↔ ∀ p ∈ s, p.2 = false := by
  constructor
  · intro h
    rw [← scalar_flatMap_iff, h]
    simp [meant, CodePoint.toChar?]
  · intro h
    rw [meant, List.map_eq_flatMap, List.flatMap_def, List.flatMap_def]
    refine congrArg List.flatten (List.map_congr_left fun p hp => ?_)
    simp [readOne, h p hp]

end Json

/-- A JSON string is read as a string literal. Its text is the one that JSON means, and holds no
surrogate, exactly if no character is written as a pair of surrogates; a pair is read as two code
points. -/
theorem Query.parse_jsonLiteral {s : List (Char × Bool)} {body : Text} (h : Json.Spells s body) :
    parse ("\"" ++ body ++ "\"") = .ok (.string (s.flatMap Json.readOne)) ∧
      (parse ("\"" ++ body ++ "\"") = .ok (.string (Json.meant s)) ↔ ∀ p ∈ s, p.2 = false) ∧
      ((∀ c ∈ s.flatMap Json.readOne, c.toChar?.isSome = true) ↔ ∀ p ∈ s, p.2 = false) := by
  have hreads : ReadsAt 13 false false ("\"" ++ body ++ "\"")
      (some (.string (s.flatMap Json.readOne))) :=
    (reads_literal h.encodes).lift (by decide) (by decide) (by decide) fun _ => rfl
  have hparse : parse ("\"" ++ body ++ "\"") = .ok (.string (s.flatMap Json.readOne)) :=
    parse_eq_ok_iff_toOption.mpr (parse_of_reads hreads)
  refine ⟨hparse, ?_, Json.scalar_flatMap_iff s⟩
  rw [hparse, ← Json.flatMap_eq_meant_iff]
  simp

/-- A letter with its number, a line end and a letter beyond U+FFFF as a pair: only the last is not
read as JSON means it. -/
theorem Query.parse_jsonLiteral_pair :
    Json.Spells [('é', false), ('\n', false), ('😀', true)] "\\u00e9\\n\\ud83d\\uDE00" ∧
    parse "\"\\u00e9\\n\\ud83d\\uDE00\"" =
      .ok (.string [.scalar 'é', .scalar '\n', .surrogate 0x3d, .surrogate 0x600]) ∧
    parse "\"\\u00e9\\n\\ud83d\\uDE00\"" ≠ .ok (.string "é\n😀") := by
  have hspells : Json.Spells [('é', false), ('\n', false), ('😀', true)]
      "\\u00e9\\n\\ud83d\\uDE00" := by
    refine .cons (.number (u := "00e9") ?_) (.cons (.short (x := 'n') (by decide))
      (.cons (.pair (u := "d83d") (v := "DE00") (by decide) ?_ ?_) .nil))
    · exact .digits (a := 0) (b := 0) (c := 14) (d := 9) (by decide) (by decide) (by decide)
        (by decide)
    · exact .digits (a := 13) (b := 8) (c := 3) (d := 13) (by decide) (by decide) (by decide)
        (by decide)
    · exact .digits (a := 13) (b := 14) (c := 0) (d := 0) (by decide) (by decide) (by decide)
        (by decide)
  obtain ⟨hparse, hmeant, -⟩ := parse_jsonLiteral hspells
  refine ⟨hspells, hparse, fun h => ?_⟩
  exact absurd (hmeant.mp h) (by decide)

end JqFlow
