import JqFlow.Number.Binary64

/-!
# Shortest decimals

A finite value is written with the fewest decimal digits that read back as the same value, and of
those with the ones nearest to it.

## Main definitions

- `Shortest.Interval`: the numbers that are read as a value
- `Shortest.digits`: the shortest decimal of a positive value
- `Binary64.toText`: the written form of a value
-/

namespace JqFlow

namespace Shortest

/-- The numbers between two quotients with one denominator; the ends belong to it or not. -/
structure Interval where
  low : Nat
  high : Nat
  den : Nat
  closed : Bool

/-- The numbers that are read as `mantissa * 2 ^ exponent`: those nearer to it than to either
neighbour, and the ends if the mantissa is even. Below a power of two the neighbour is half as
far. -/
def Interval.around (mantissa : Nat) (exponent : Int) : Interval :=
  let below := if mantissa = pow2 52 ∧ exponent > Binary64.minExponent then 1 else 2
  let unit := pow2 exponent.toNat
  ⟨(4 * mantissa - below) * unit, (4 * mantissa + 2) * unit, 4 * pow2 (-exponent).toNat,
    mantissa % 2 = 0⟩

/-- Is `n / d` in the interval? -/
def Interval.contains (i : Interval) (n d : Nat) : Bool :=
  let low := i.low * d
  let high := i.high * d
  let x := n * i.den
  (low < x || (i.closed && low = x)) && (x < high || (i.closed && x = high))

/-- The place of the first digit of a positive quotient, so that
`10 ^ place ≤ num / den < 10 ^ (place + 1)`. -/
def leadingPlace (num den : Nat) : Int :=
  let d : Int := (Nat.toDigits 10 num).length - (Nat.toDigits 10 den).length
  if den * pow10 d.toNat ≤ num * pow10 (-d).toNat then d else d - 1

/-- The decimals `digits * 10 ^ place` next to `num / den` that lie in the interval, the nearer one
first; of two that are equally near, the even one. -/
def neighbours (i : Interval) (num den : Nat) (place : Int) : List Nat :=
  let n := num * pow10 (-place).toNat
  let d := den * pow10 place.toNat
  let q := n / d
  let nearest := roundDiv n d
  let other := if nearest = q then q + 1 else q
  [nearest, other].filter fun k => i.contains (k * pow10 place.toNat) (pow10 (-place).toNat)

/-- The first hit on the grids of `10 ^ place`, `10 ^ (place - 1)`, …; without one on the given
number of them, the nearest decimal on the next. -/
def search (i : Interval) (num den : Nat) : Nat → Int → Nat × Int
  | 0, place => (roundDiv (num * pow10 (-place).toNat) (den * pow10 place.toNat), place)
  | more + 1, place =>
    match neighbours i num den place with
    | k :: _ => (k, place)
    | [] => search i num den more (place - 1)

/-- The shortest decimal `digits * 10 ^ place` of a positive value. Seventeen digits are always
enough. -/
def digits (mantissa : Nat) (exponent : Int) : Nat × Int :=
  let (num, den) := (mantissa * pow2 exponent.toNat, pow2 (-exponent).toNat)
  search (.around mantissa exponent) num den 17 (leadingPlace num den)

/-- A positive decimal without zeros at its end. -/
def strip : Nat → Nat × Int → Nat × Int
  | 0, d => d
  | fuel + 1, (k, place) =>
    if k % 10 = 0 ∧ k ≠ 0 then strip fuel (k / 10, place + 1) else (k, place)

/-- The written form of a positive decimal. Numbers from `0.0001` up to ten to the sixteenth are
written with a point and at least one digit after it, others with an exponent of at least two
digits. -/
def layout (k : Nat) (place : Int) : Text :=
  let ds := Text.ofNat k
  let point : Int := ds.length + place
  let zeros (n : Nat) : Text := List.replicate n (CodePoint.scalar '0')
  if -4 < point ∧ point ≤ 16 then
    if point ≤ 0 then ("0." : Text) ++ zeros (-point).toNat ++ ds
    else if (ds.length : Int) ≤ point then ds ++ zeros place.toNat ++ ".0"
    else ds.take point.toNat ++ "." ++ ds.drop point.toNat
  else
    let e := point - 1
    let size := Text.ofNat e.natAbs
    let fraction : Text := if ds.length = 1 then [] else CodePoint.scalar '.' :: ds.drop 1
    let sign : Text := if e < 0 then "e-" else "e+"
    ds.take 1 ++ fraction ++ sign ++ zeros (2 - size.length) ++ size

end Shortest

/-- The written form of a value. -/
def Binary64.toText : Binary64 → Text
  | .nan => "nan"
  | .infinite negative => if negative then "-inf" else "inf"
  | .finite negative m e =>
    let size : Text :=
      if m = 0 then "0.0"
      else
        let (k, place) := Shortest.strip 400 (Shortest.digits m e)
        Shortest.layout k place
    if negative then "-" ++ size else size

end JqFlow
