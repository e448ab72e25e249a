import JqFlow.Number.Binary64
import JqFlow.Text.Casing

/-!
# Decimals

Numbers as people write them: with a sign, a point, an exponent, and underscores between digits.

## Main definitions

- `Decimal.natural`: the number that digits denote
- `Binary64.ofText?`: the value nearest to a written number
-/

namespace JqFlow

namespace Decimal

/-- The number that digits of a base denote. What is no digit counts nothing. -/
def natural (base : Nat) (digits : Text) : Nat :=
  digits.foldl (fun n c => n * base + c.hexValue?.getD 0) 0

/-- A decimal digit of any script as the ASCII digit of its value, and white space as a space. -/
def toAscii (c : CodePoint) : CodePoint :=
  if c.isBlank then ' '
  else
    match decimalDigitRanges.find? fun (first, last) => first ≤ c.toNat && c.toNat ≤ last with
    | some (first, _) => .scalar (Nat.digitChar ((c.toNat - first) % 10))
    | none => c

/-- The text without its underscores, each of which has to stand between two digits. The flag says
whether a digit stands before the text. -/
def dropUnderscores? : Bool → Text → Option Text
  | _, [] => some []
  | before, c :: rest =>
    if c = '_' then
      if before && (rest.head?.map CodePoint.isAsciiDigit).getD false then
        dropUnderscores? false rest
      else none
    else (dropUnderscores? c.isAsciiDigit rest).map (c :: ·)

/-- A sign at the start, and whether it is a minus. -/
def sign : Text → Bool × Text
  | .scalar '-' :: rest => (true, rest)
  | .scalar '+' :: rest => (false, rest)
  | t => (false, t)

/-- An exponent of ten, which has to fill the text; an empty text is the exponent zero. -/
def exponent? (t : Text) : Option Int :=
  match t with
  | [] => some 0
  | mark :: rest =>
    let (negative, digits) := sign rest
    if (mark = 'e' || mark = 'E') && digits ≠ [] && digits.all CodePoint.isAsciiDigit then
      let n := natural 10 digits
      some (if negative then -n else n)
    else none

/-- Digits and the exponent of ten that they are to be taken with. There has to be a digit before
or after the point. -/
def unsigned? (t : Text) : Option (Nat × Int) := do
  let (whole, rest) := t.span CodePoint.isAsciiDigit
  let (fraction, rest) :=
    match rest with
    | .scalar '.' :: rest => rest.span CodePoint.isAsciiDigit
    | rest => ([], rest)
  if whole = [] ∧ fraction = [] then none
  else
    let exponent ← exponent? rest
    return (natural 10 (whole ++ fraction), exponent - fraction.length)

end Decimal

/-- The value nearest to a written number, or one of the named values. White space around it does
not matter. -/
def Binary64.ofText? (t : Text) : Option Binary64 := do
  let t ← Decimal.dropUnderscores? false (Text.trim (t.map Decimal.toAscii))
  let (negative, size) := Decimal.sign t
  let name := Text.toLower size
  if name = "inf" ∨ name = "infinity" then return .infinite negative
  else if name = "nan" then return .nan
  else
    let (digits, exponent) ← Decimal.unsigned? size
    return .ofDecimal negative digits exponent

end JqFlow
