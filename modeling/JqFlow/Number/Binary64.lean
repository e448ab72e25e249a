import JqFlow.Text.Basic

/-!
# Binary floating point numbers

The values of the binary64 format, with exact arithmetic on mantissa and exponent: a quotient of
natural numbers is rounded to the nearest value, and of two that are equally near to the even one.

## Main definitions

- `Binary64`: a value of the format
- `Binary64.ofRatio`, `Binary64.ofDecimal`, `Binary64.ofInt`: the nearest value
- `Binary64.le`: the order, in which nothing compares with a NaN
-/

namespace JqFlow

/-- A value of the binary64 format. A finite one is `± mantissa * 2 ^ exponent`; both mantissa and
exponent are then the ones of the format, `mantissa < 2 ^ 53` and `-1074 ≤ exponent ≤ 971`. -/
inductive Binary64
  | finite (negative : Bool) (mantissa : Nat) (exponent : Int)
  | infinite (negative : Bool)
  | nan
  deriving DecidableEq

/-- A power of two. -/
def pow2 (n : Nat) : Nat := Nat.pow 2 n

/-- A power of ten. -/
def pow10 (n : Nat) : Nat := Nat.pow 10 n

/-- The quotient rounded to the nearest integer, a half to the even one. -/
def roundDiv (num den : Nat) : Nat :=
  let q := num / den
  let r := num % den
  if 2 * r > den ∨ (2 * r = den ∧ q % 2 = 1) then q + 1 else q

namespace Binary64

/-- The least exponent of the format. -/
def minExponent : Int := -1074

/-- The greatest exponent of the format. -/
def maxExponent : Int := 971

/-- Numerator and denominator of `num / den / 2 ^ e`. -/
def scale (num den : Nat) (e : Int) : Nat × Nat :=
  (num * pow2 (-e).toNat, den * pow2 e.toNat)

/-- The exponent with which the mantissa of a positive quotient has 53 bits, or the least one. -/
def exponentFor (num den : Nat) : Int :=
  let e : Int := (num.log2 : Int) - (den.log2 : Int) - 52
  let (n, d) := scale num den e
  max minExponent (if n < d * pow2 52 then e - 1 else e)

/-- The value nearest to `± num / den`. -/
def ofRatio (negative : Bool) (num den : Nat) : Binary64 :=
  if num = 0 then .finite negative 0 minExponent
  else
    let e := exponentFor num den
    let (n, d) := scale num den e
    let m := roundDiv n d
    let (m, e) := if m = pow2 53 then (pow2 52, e + 1) else (m, e)
    if e > maxExponent then .infinite negative else .finite negative m e

/-- The value nearest to `± digits * 10 ^ exponent`. Beyond 400 places before the point a number is
infinite, and behind 400 places after it is zero, whatever its digits are. -/
def ofDecimal (negative : Bool) (digits : Nat) (exponent : Int) : Binary64 :=
  let places : Int := (Nat.toDigits 10 digits).length + exponent
  if digits = 0 ∨ places < -400 then .finite negative 0 minExponent
  else if places > 400 then .infinite negative
  else ofRatio negative (digits * pow10 exponent.toNat) (pow10 (-exponent).toNat)

/-- The value nearest to an integer. -/
def ofInt (n : Int) : Binary64 :=
  ofRatio (n < 0) n.natAbs 1

/-- A finite value as a quotient. -/
def ratio (negative : Bool) (mantissa : Nat) (exponent : Int) : Int × Nat :=
  let num := mantissa * pow2 exponent.toNat
  (if negative then -(num : Int) else num, pow2 (-exponent).toNat)

/-- The order of the values; a NaN is neither below nor above anything. -/
def le : Binary64 → Binary64 → Bool
  | .nan, _ | _, .nan => false
  | .infinite s, .infinite t => s || !t
  | .infinite s, .finite .. => s
  | .finite .., .infinite t => !t
  | .finite s m e, .finite t n f =>
    let (a, b) := ratio s m e
    let (c, d) := ratio t n f
    a * d ≤ c * b

/-- The value zero. -/
def zero : Binary64 := .finite false 0 minExponent

end Binary64

end JqFlow
