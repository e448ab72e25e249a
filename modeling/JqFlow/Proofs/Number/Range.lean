import JqFlow.Number.Binary64
import Mathlib.Algebra.Order.Ring.Int

/-!
# The range of the binary64 format

Which integers are too large for the format, and which values count as positive.

## Main definitions

- `Binary64.IsPositive`: the values above zero
- `Binary64.rangeEnd`: the least number that is rounded to infinity

## Main statements

- `Binary64.le_zero_eq_false_iff`: the values that are not at most zero
- `Binary64.ofInt_infinite_iff`: the positive integers that are rounded to infinity
-/

namespace JqFlow

theorem pow2_pos (n : Nat) : 0 < pow2 n := Nat.pow_pos (by decide)

theorem pow2_add (m n : Nat) : pow2 (m + n) = pow2 m * pow2 n := Nat.pow_add 2 m n

theorem pow2_succ (n : Nat) : pow2 (n + 1) = 2 * pow2 n := Nat.pow_succ'

theorem pow2_mono {m n : Nat} (h : m ≤ n) : pow2 m ≤ pow2 n :=
  Nat.pow_le_pow_right (by decide) h

/-- A quotient below an even number is rounded up to it from half a step before it on. -/
theorem roundDiv_eq_iff {num half k : Nat} (hhalf : 0 < half) (hk : k % 2 = 0)
    (hnum : num < 2 * half * k) : roundDiv num (2 * half) = k ↔ 2 * half * k ≤ num + half := by
  have hdiv := Nat.div_add_mod num (2 * half)
  have hmod := Nat.mod_lt num (show 0 < 2 * half by omega)
  have hq : num / (2 * half) < k := Nat.div_lt_of_lt_mul hnum
  rw [roundDiv]
  generalize num / (2 * half) = q at *
  generalize num % (2 * half) = r at *
  rcases Nat.lt_or_eq_of_le (Nat.succ_le_of_lt hq) with hbelow | hnext
  · -- More than a step is missing.
    have hstep : 2 * half * (q + 2) ≤ 2 * half * k := Nat.mul_le_mul_left _ hbelow
    rw [Nat.mul_add] at hstep
    constructor
    · intro h
      split at h <;> omega
    · intro h
      omega
  · have hstep : 2 * half * k = 2 * half * q + 2 * half := by rw [← hnext, Nat.mul_succ]
    constructor
    · intro h
      split at h <;> omega
    · intro h
      rw [if_pos (by omega)]
      omega

namespace Binary64

/-! ### Positive values -/

/-- The values above zero. -/
def IsPositive : Binary64 → Prop
  | finite negative mantissa _ => negative = false ∧ mantissa ≠ 0
  | infinite negative => negative = false
  | nan => False

theorem le_finite (negative negative' : Bool) (mantissa mantissa' : Nat) (exponent exponent' : Int) :
    (finite negative mantissa exponent).le (finite negative' mantissa' exponent') =
      decide ((ratio negative mantissa exponent).1 * (ratio negative' mantissa' exponent').2 ≤
        (ratio negative' mantissa' exponent').1 * (ratio negative mantissa exponent).2) := rfl

theorem ratio_den_pos (negative : Bool) (mantissa : Nat) (exponent : Int) :
    0 < (ratio negative mantissa exponent).2 := pow2_pos _

theorem ratio_zero (exponent : Int) : (ratio false 0 exponent).1 = 0 :=
  congrArg Nat.cast (Nat.zero_mul (pow2 exponent.toNat))

/-- A quotient is positive if its sign and its mantissa are. -/
theorem ratio_pos_iff {negative : Bool} {mantissa : Nat} {exponent : Int} :
    0 < (ratio negative mantissa exponent).1 ↔ negative = false ∧ mantissa ≠ 0 := by
  have hpow : 0 < pow2 exponent.toNat := pow2_pos _
  rw [ratio]
  dsimp only
  cases negative with
  | false => simp [Nat.pos_iff_ne_zero, hpow.ne']
  | true =>
    have : ¬ 0 < -((mantissa * pow2 exponent.toNat : Nat) : Int) := by omega
    simpa using this

/-- What is not at most zero is positive, or no number. -/
theorem le_zero_eq_false_iff {x : Binary64} : x.le zero = false ↔ x = nan ∨ x.IsPositive := by
  cases x with
  | nan => simp [le]
  | infinite negative => simp [le, zero, IsPositive]
  | finite negative mantissa exponent =>
    have hden : 0 < ((ratio false 0 minExponent).2 : Int) :=
      Int.natCast_pos.mpr (ratio_den_pos false 0 minExponent)
    rw [zero, le_finite, ratio_zero, zero_mul, decide_eq_false_iff_not, not_le,
      mul_pos_iff_of_pos_right hden, ratio_pos_iff]
    simp [IsPositive]

/-! ### Large integers -/

/-- The least number that is rounded to infinity: half a step after the greatest finite value. -/
def rangeEnd : Nat := pow2 1024 - pow2 970

/-- The exponent with which an integer has a mantissa of 53 bits. -/
theorem exponentFor_one {num : Nat} (h : num ≠ 0) :
    exponentFor num 1 = (num.log2 : Int) - 52 := by
  have hself : pow2 num.log2 ≤ num := Nat.log2_self_le h
  have hlog : Nat.log2 1 = 0 := by decide
  -- The exponent that the highest bit asks for is not too large by one.
  have hbits : ¬ num * pow2 (-((num.log2 : Int) - 52)).toNat <
      1 * pow2 ((num.log2 : Int) - 52).toNat * pow2 52 := by
    rw [Nat.one_mul, ← pow2_add, Nat.not_lt]
    calc pow2 (((num.log2 : Int) - 52).toNat + 52)
        = pow2 (num.log2 + (-((num.log2 : Int) - 52)).toNat) := by congr 1; omega
      _ = pow2 num.log2 * pow2 (-((num.log2 : Int) - 52)).toNat := pow2_add _ _
      _ ≤ num * pow2 (-((num.log2 : Int) - 52)).toNat := Nat.mul_le_mul_right _ hself
  simp only [exponentFor, scale, hlog, Nat.cast_zero, sub_zero, if_neg hbits]
  rw [minExponent]
  omega

/-- Which of the two values a choice is shows how it was made. -/
theorem exists_infinite_iff {c : Prop} [Decidable c] {negative negative' : Bool} {mantissa : Nat}
    {exponent : Int} :
    (∃ s, (if c then infinite negative else finite negative' mantissa exponent) = infinite s) ↔ c := by
  by_cases hc : c
  · simp [hc]
  · simp [hc]

/-- An integer is rounded to infinity if it has more bits than the format has room for, also if it
gets one of them from rounding its mantissa up. -/
theorem ofRatio_one_infinite_iff_log2 {num : Nat} (h : num ≠ 0) (negative : Bool) :
    (∃ s, ofRatio negative num 1 = .infinite s) ↔
      1023 < num.log2 ∨ (num.log2 = 1023 ∧ roundDiv num (pow2 971) = pow2 53) := by
  have hlast : num.log2 = 1023 → roundDiv (num * pow2 (-((num.log2 : Int) - 52)).toNat)
      (1 * pow2 ((num.log2 : Int) - 52).toNat) = roundDiv num (pow2 971) := by
    intro hlog
    have hshift : (-((num.log2 : Int) - 52)).toNat = 0 := by omega
    have hplaces : ((num.log2 : Int) - 52).toNat = 971 := by omega
    rw [hshift, hplaces, Nat.one_mul]
    congr 1
    exact Nat.mul_one num
  rw [ofRatio, if_neg h, exponentFor_one h]
  dsimp only [scale]
  generalize roundDiv (num * pow2 (-((num.log2 : Int) - 52)).toNat)
    (1 * pow2 ((num.log2 : Int) - 52).toNat) = mantissa at *
  by_cases hup : mantissa = pow2 53
  · rw [if_pos hup, exists_infinite_iff, maxExponent]
    constructor
    · intro hlarge
      rcases Nat.lt_or_eq_of_le (show 1023 ≤ num.log2 by omega) with hlog | hlog
      · exact .inl hlog
      · exact .inr ⟨hlog.symm, by rw [← hlast hlog.symm, hup]⟩
    · rintro (hlog | ⟨hlog, -⟩) <;> omega
  · rw [if_neg hup, exists_infinite_iff, maxExponent]
    constructor
    · intro hlarge
      exact .inl (by omega)
    · rintro (hlog | ⟨hlog, hround⟩)
      · omega
      · exact absurd ((hlast hlog).trans hround) hup

/-- An integer is rounded to infinity from the end of the range on. -/
theorem ofRatio_one_infinite_iff {num : Nat} (h : num ≠ 0) (negative : Bool) :
    (∃ s, ofRatio negative num 1 = .infinite s) ↔ rangeEnd ≤ num := by
  have hself : pow2 num.log2 ≤ num := Nat.log2_self_le h
  have hlt : num < pow2 (num.log2 + 1) := Nat.lt_log2_self
  have hhalf : 0 < pow2 970 := pow2_pos 970
  have hstep : pow2 971 = 2 * pow2 970 := pow2_succ 970
  have hend : rangeEnd + pow2 970 = 2 * pow2 970 * pow2 53 := by
    rw [rangeEnd, ← hstep, ← pow2_add, Nat.sub_add_cancel (pow2_mono (by decide))]
  have hbits : pow2 1024 = 2 * pow2 970 * pow2 53 := by rw [← hstep, ← pow2_add]
  rw [ofRatio_one_infinite_iff_log2 h, hstep]
  rcases Nat.lt_trichotomy num.log2 1023 with hlog | hlog | hlog
  · -- With a bit less than there is room for, rounding up stays in the format.
    have hsmall : pow2 (num.log2 + 1) ≤ pow2 1023 := pow2_mono (by omega)
    have hdouble : pow2 1024 = 2 * pow2 1023 := pow2_succ 1023
    have hroom : pow2 970 ≤ pow2 1023 := pow2_mono (by decide)
    constructor
    · rintro (hlarge | ⟨heq, -⟩) <;> omega
    · intro hge
      omega
  · -- With all bits in use, the mantissa must not be rounded up to `2 ^ 53`.
    have hin : num < 2 * pow2 970 * pow2 53 := by
      rw [← hbits]
      rwa [hlog] at hlt
    rw [roundDiv_eq_iff hhalf (by decide) hin]
    omega
  · have hlarge : pow2 1024 ≤ pow2 num.log2 := pow2_mono hlog
    constructor
    · intro _
      omega
    · intro _
      exact .inl hlog

/-- A positive integer is rounded to infinity from the end of the range on. -/
theorem ofInt_infinite_iff {n : Int} (h : 0 < n) :
    (∃ s, ofInt n = .infinite s) ↔ (rangeEnd : Int) ≤ n := by
  rw [ofInt, ofRatio_one_infinite_iff (by omega)]
  omega

end Binary64

end JqFlow
