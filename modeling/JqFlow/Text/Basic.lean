/-!
# Text as code points

A query string may name any code point with a `\uXXXX` escape, also half of a surrogate pair, so
the texts of this library are lists of code points and not of Unicode scalar values.

## Main definitions

- `CodePoint`: a Unicode scalar value, or a lone surrogate
- `Text`: a list of code points; string literals coerce to it
- `Text.splitOn`, `Text.join`, `Text.replaceEach`: cutting, joining and substituting
- `Text.lt`: the order by code point
-/

namespace JqFlow

/-- A Unicode code point. Surrogates are counted from U+D800. -/
inductive CodePoint
  | scalar (c : Char)
  | surrogate (index : Fin 0x800)
  deriving DecidableEq, Inhabited

/-- A finite sequence of code points. -/
abbrev Text := List CodePoint

namespace CodePoint

instance : Coe Char CodePoint := ⟨scalar⟩

/-- The number of a code point in the Unicode code space. -/
def toNat : CodePoint → Nat
  | scalar c => c.toNat
  | surrogate i => 0xD800 + i.val

/-- The code point of a number; numbers beyond U+10FFFF have none. -/
def ofNat? (n : Nat) : Option CodePoint :=
  if h : n.isValidChar then some (scalar (Char.ofNatAux n h))
  else if h : 0xD800 ≤ n ∧ n < 0xE000 then some (surrogate ⟨n - 0xD800, by omega⟩)
  else none

/-- The scalar value of a code point; a surrogate has none. -/
def toChar? : CodePoint → Option Char
  | scalar c => some c
  | surrogate _ => none

/-- One of the letters `a` to `z` and `A` to `Z`. -/
def isAsciiLetter : CodePoint → Bool
  | scalar c => c.isAlpha
  | surrogate _ => false

/-- One of the digits `0` to `9`. -/
def isAsciiDigit : CodePoint → Bool
  | scalar c => c.isDigit
  | surrogate _ => false

/-- The value of a hexadecimal digit in either case. -/
def hexValue? : CodePoint → Option Nat
  | scalar c =>
    if c.isDigit then some (c.toNat - '0'.toNat)
    else if 'a' ≤ c ∧ c ≤ 'f' then some (c.toNat - 'a'.toNat + 10)
    else if 'A' ≤ c ∧ c ≤ 'F' then some (c.toNat - 'A'.toNat + 10)
    else none
  | surrogate _ => none

end CodePoint

namespace Text

/-- The text of a string of scalar values. -/
def ofString (s : String) : Text :=
  s.toList.map .scalar

instance : Coe String Text := ⟨ofString⟩

/-- The string of a text without surrogates. -/
def toString? (t : Text) : Option String :=
  (t.mapM CodePoint.toChar?).map String.ofList

/-- The decimal digits of a number. -/
def ofNat (n : Nat) : Text :=
  (Nat.toDigits 10 n).map .scalar

/-- An integer in decimal, with a leading `-` if it is negative. -/
def ofInt : Int → Text
  | .ofNat n => ofNat n
  | .negSucc n => "-" ++ ofNat (n + 1)

/-- A number in lower-case hexadecimal, padded with zeros to at least `width` digits. -/
def ofNatHex (width n : Nat) : Text :=
  let digits := (Nat.toDigits 16 n).map CodePoint.scalar
  List.replicate (width - digits.length) (CodePoint.scalar '0') ++ digits

/-- The parts of a text between the places where `separator` stands: one more than there are
such places. -/
def splitOn (separator : CodePoint) : Text → List Text
  | [] => [[]]
  | c :: rest =>
    if c = separator then [] :: splitOn separator rest
    else
      match splitOn separator rest with
      | [] => [[c]]
      | part :: parts => (c :: part) :: parts

/-- The parts in order with `separator` between them. -/
def join (separator : Text) (parts : List Text) : Text :=
  separator.intercalate parts

/-- Every code point replaced by the text that `f` gives for it. -/
def replaceEach (f : CodePoint → Text) (t : Text) : Text :=
  t.flatMap f

/-- Does `part` stand somewhere in the text? -/
def hasInfix (part : Text) : Text → Bool
  | [] => part.isEmpty
  | c :: rest => part.isPrefixOf (c :: rest) || hasInfix part rest

/-- What is left of a text after `start`, if it begins so. -/
def dropStart? (start t : Text) : Option Text :=
  if start.isPrefixOf t then some (t.drop start.length) else none

/-- The lexicographic order by code point. -/
def lt : Text → Text → Bool
  | _, [] => false
  | [], _ :: _ => true
  | a :: s, b :: t => a.toNat < b.toNat || (a = b && lt s t)

/-- Not after in the order by code point. -/
def le (s t : Text) : Bool :=
  !lt t s

/-- A text without the leading code points that satisfy `p`. -/
def trimStart (p : CodePoint → Bool) (t : Text) : Text :=
  t.dropWhile p

/-- A text without the trailing code points that satisfy `p`. -/
def trimEnd (p : CodePoint → Bool) (t : Text) : Text :=
  (t.reverse.dropWhile p).reverse

end Text

end JqFlow
