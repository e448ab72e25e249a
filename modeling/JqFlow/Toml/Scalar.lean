import JqFlow.Number.Decimal
import JqFlow.Toml.Value

/-!
# Scalars of TOML

Strings, numbers, dates and times. Every reader takes the text that comes next and returns what it
read with the text after it.

## Main definitions

- `Toml.Fault`: why a document is refused
- `Toml.readBasic`, `Toml.readLiteral`, `Toml.readString`: strings
- `Toml.readMoment?`: dates and times
- `Toml.readNumber?`, `Toml.readNamed?`: numbers
-/

namespace JqFlow.Toml

/-- Why a document is refused: it breaks the rules of the format, or has a decimal integer with more
digits than are read. -/
inductive Fault
  | malformed
  | tooManyDigits (count : Nat)
  deriving DecidableEq

/-- The blanks within a line. -/
def isSpace (c : CodePoint) : Bool := c = ' ' || c = '\t'

/-- The blanks within a line, and the line end. -/
def isSpaceOrBreak (c : CodePoint) : Bool := isSpace c || c = '\n'

/-- A text without the blanks at its start. -/
def skipSpace (t : Text) : Text := t.dropWhile isSpace

/-- The control characters that can stand neither in comments nor in strings. -/
def isControl (c : CodePoint) : Bool :=
  (c.toNat < 0x20 && c ≠ '\t') || c.toNat = 0x7F

/-- What cannot stand in a string. Line ends can stand in those that run over several lines. -/
def isForbidden (multiline : Bool) (c : CodePoint) : Bool :=
  isControl c && !(multiline && c = '\n')

/-! ### Strings -/

/-- Three quotes in a row. -/
def triple (quote : CodePoint) : Text := [quote, quote, quote]

/-- The text before the first place where `mark` stands, and the text after it. -/
def splitAtMark? (mark : Text) : Text → Option (Text × Text)
  | [] => none
  | c :: rest =>
    match Text.dropStart? mark (c :: rest) with
    | some after => some ([], after)
    | none => (splitAtMark? mark rest).map fun (before, after) => (c :: before, after)

/-- A string without escapes, up to the mark that ends it. -/
def readLiteral (multiline : Bool) (mark t : Text) : Except Fault (Text × Text) :=
  match splitAtMark? mark t with
  | some (inside, rest) =>
    if inside.any (isForbidden multiline) then .error .malformed else .ok (inside, rest)
  | none => .error .malformed

/-- A scalar value given by so many hexadecimal digits. -/
def readHex (count : Nat) (t : Text) : Except Fault (Text × Text) :=
  let digits := t.take count
  if digits.length = count && digits.all (·.hexValue?.isSome) then
    match CodePoint.ofNat? (Decimal.natural 16 digits) with
    | some (.scalar c) => .ok ([.scalar c], t.drop count)
    | _ => .error .malformed
  else .error .malformed

/-- What an escape of one letter stands for. -/
def simpleEscape? : CodePoint → Option CodePoint
  | .scalar 'b' => some '\x08'
  | .scalar 't' => some '\t'
  | .scalar 'n' => some '\n'
  | .scalar 'f' => some '\x0c'
  | .scalar 'r' => some '\r'
  | .scalar '"' => some '"'
  | .scalar '\\' => some '\\'
  | _ => none

/-- What follows a backslash at the end of a line: all blanks and line ends are skipped. Blanks can
stand before the line end, but nothing else. -/
def readJoin (t : Text) : Except Fault (Text × Text) :=
  match skipSpace t with
  | [] => .ok ([], [])
  | c :: rest => if c = '\n' then .ok ([], rest.dropWhile isSpaceOrBreak) else .error .malformed

/-- What follows a backslash. -/
def readEscape (multiline : Bool) : Text → Except Fault (Text × Text)
  | [] => .error .malformed
  | c :: rest =>
    if multiline && isSpaceOrBreak c then readJoin (c :: rest)
    else if c = 'u' then readHex 4 rest
    else if c = 'U' then readHex 8 rest
    else
      match simpleEscape? c with
      | some x => .ok ([x], rest)
      | none => .error .malformed

/-- A string with escapes, up to the mark that ends it. The fuel bounds its length. -/
def readBasicFrom (multiline : Bool) (mark : Text) : Nat → Text → Except Fault (Text × Text)
  | 0, _ | _, [] => .error .malformed
  | fuel + 1, c :: rest =>
    match Text.dropStart? mark (c :: rest) with
    | some after => .ok ([], after)
    | none =>
      if c = '\\' then do
        let (x, rest) ← readEscape multiline rest
        let (t, rest) ← readBasicFrom multiline mark fuel rest
        return (x ++ t, rest)
      else if isForbidden multiline c then .error .malformed
      else do
        let (t, rest) ← readBasicFrom multiline mark fuel rest
        return (c :: t, rest)

/-- A string with escapes, up to the mark that ends it. -/
def readBasic (multiline : Bool) (mark t : Text) : Except Fault (Text × Text) :=
  readBasicFrom multiline mark (t.length + 1) t

/-- Up to two quotes right after the three that end a string belong to the string. -/
def readLateQuotes (quote : CodePoint) (inside rest : Text) : Text × Text :=
  let late := (rest.take 2).takeWhile (· = quote)
  (inside ++ late, rest.drop late.length)

/-- A string of either kind, from after its first quote on, on one line. -/
def readLine (quote : CodePoint) (t : Text) : Except Fault (Text × Text) :=
  if quote = '"' then readBasic false [quote] t else readLiteral false [quote] t

/-- A string, from its first quote on. Three quotes start one that can run over several lines, and a
line end right after them is skipped. -/
def readString (quote : CodePoint) (t : Text) : Except Fault (Text × Text) :=
  match Text.dropStart? (triple quote) t with
  | some rest => do
    let rest := (Text.dropStart? "\n" rest).getD rest
    let (inside, rest) ←
      if quote = '"' then readBasic true (triple quote) rest
      else readLiteral true (triple quote) rest
    return readLateQuotes quote inside rest
  | none => readLine quote (t.drop 1)

/-! ### Dates and times -/

/-- A number of two digits in a range. -/
def readTwo? (low high : Nat) : Text → Option (Nat × Text)
  | a :: b :: rest =>
    let n := Decimal.natural 10 [a, b]
    if a.isAsciiDigit && b.isAsciiDigit && low ≤ n && n ≤ high then some (n, rest) else none
  | _ => none

/-- One code point that is expected. -/
def expect? (c : CodePoint) : Text → Option Text
  | d :: rest => if d = c then some rest else none
  | [] => none

/-- A time of the day, with parts of a second or without. -/
def readTime? (t : Text) : Option Text := do
  let (_, t) ← readTwo? 0 23 t
  let t ← expect? ':' t
  let (_, t) ← readTwo? 0 59 t
  let t ← expect? ':' t
  let (_, t) ← readTwo? 0 59 t
  match t with
  | .scalar '.' :: d :: rest =>
    return if d.isAsciiDigit then rest.dropWhile CodePoint.isAsciiDigit else t
  | _ => return t

/-- The distance of a clock from the universal time, if there is one. -/
def skipOffset (t : Text) : Text :=
  match t with
  | c :: rest =>
    if c = 'Z' || c = 'z' then rest
    else if c = '+' || c = '-' then
      (do
        let (_, rest) ← readTwo? 0 23 rest
        let rest ← expect? ':' rest
        let (_, rest) ← readTwo? 0 59 rest
        return rest).getD t
    else t
  | [] => []

/-- The number of days in a month. -/
def daysIn (year month : Nat) : Nat :=
  if month = 2 then
    if year % 4 = 0 && (year % 100 ≠ 0 || year % 400 = 0) then 29 else 28
  else if month = 4 || month = 6 || month = 9 || month = 11 then 30
  else 31

/-- A date, and whether there is such a day. -/
def readDate? (t : Text) : Option (Bool × Text) := do
  let (century, t) ← readTwo? 0 99 t
  let (year, t) ← readTwo? 0 99 t
  let t ← expect? '-' t
  let (month, t) ← readTwo? 1 12 t
  let t ← expect? '-' t
  let (day, t) ← readTwo? 1 31 t
  let year := century * 100 + year
  return (1 ≤ year && day ≤ daysIn year month, t)

/-- A date, a date with a time, or a time, if one comes next. -/
def readMoment? (t : Text) : Option (Except Fault (Value × Text)) :=
  match readDate? t with
  | some (false, _) => some (.error .malformed)
  | some (true, rest) =>
    let timed :=
      match rest with
      | c :: rest => if c = 'T' || c = 't' || c = ' ' then readTime? rest else none
      | [] => none
    match timed with
    | some rest => some (.ok (.dateTime, skipOffset rest))
    | none => some (.ok (.date, rest))
  | none => (readTime? t).map fun rest => .ok (.time, rest)

/-! ### Numbers -/

/-- The digits that come next, with single underscores between them. -/
def splitDigits (isDigit : CodePoint → Bool) : Text → Text × Text
  | .scalar '_' :: c :: rest =>
    if isDigit c then
      let (digits, rest) := splitDigits isDigit rest
      (c :: digits, rest)
    else ([], .scalar '_' :: c :: rest)
  | c :: rest =>
    if isDigit c then
      let (digits, rest) := splitDigits isDigit rest
      (c :: digits, rest)
    else ([], c :: rest)
  | [] => ([], [])

/-- The digits that come next, if the first code point is one. -/
def splitDigits? (isDigit : CodePoint → Bool) : Text → Option (Text × Text)
  | [] => none
  | c :: rest => if isDigit c then some (splitDigits isDigit (c :: rest)) else none

/-- Is this a digit of the base? -/
def isDigitOf (base : Nat) (c : CodePoint) : Bool :=
  match c.hexValue? with
  | some n => n < base
  | none => false

/-- An integer of another base than ten. -/
def readBased? : Text → Option (Int × Text)
  | .scalar '0' :: mark :: rest =>
    let base := if mark = 'x' then 16 else if mark = 'o' then 8 else if mark = 'b' then 2 else 0
    (splitDigits? (isDigitOf base) rest).map fun (digits, rest) =>
      ((Decimal.natural base digits : Nat), rest)
  | _ => none

/-- The digits before the point: a zero alone, or digits that do not start with one. -/
def readWhole? (t : Text) : Option (Text × Text) :=
  match t with
  | .scalar '0' :: rest => some ([.scalar '0'], rest)
  | t => splitDigits? CodePoint.isAsciiDigit t

/-- The digits after the point, if there are any. -/
def readFraction (t : Text) : Text × Text :=
  match t with
  | .scalar '.' :: rest => (splitDigits? CodePoint.isAsciiDigit rest).getD ([], t)
  | _ => ([], t)

/-- The exponent of ten, if there is one. -/
def readExponent? (t : Text) : Option (Int × Text) :=
  match t with
  | mark :: rest =>
    if mark = 'e' || mark = 'E' then
      let (negative, rest) := Decimal.sign rest
      (splitDigits? CodePoint.isAsciiDigit rest).map fun (digits, rest) =>
        let n : Int := Decimal.natural 10 digits
        (if negative then -n else n, rest)
    else none
  | [] => none

/-- So many digits are read of a decimal integer. -/
def digitLimit : Nat := 4300

/-- A decimal number. Without fraction and exponent it is an integer. -/
def readDecimal? (t : Text) : Option (Except Fault (Value × Text)) := do
  let (negative, rest) := Decimal.sign t
  let (whole, rest) ← readWhole? rest
  let (fraction, rest) := readFraction rest
  let exponent := readExponent? rest
  if fraction = [] ∧ exponent = none then
    let n : Int := Decimal.natural 10 whole
    if whole.length > digitLimit then return .error (.tooManyDigits whole.length)
    else return .ok (.whole (if negative then -n else n), rest)
  else
    let (e, rest) := exponent.getD (0, rest)
    let x := Binary64.ofDecimal negative (Decimal.natural 10 (whole ++ fraction))
      (e - fraction.length)
    return .ok (.real x, rest)

/-- A number, if one comes next. -/
def readNumber? (t : Text) : Option (Except Fault (Value × Text)) :=
  match readBased? t with
  | some (n, rest) => some (.ok (.whole n, rest))
  | none => readDecimal? t

/-- The values that have names: truth values, infinities, and what is no number. -/
def named : List (Text × Value) :=
  [("true", .bool true), ("false", .bool false), ("inf", .real (.infinite false)),
    ("+inf", .real (.infinite false)), ("-inf", .real (.infinite true)), ("nan", .real .nan),
    ("+nan", .real .nan), ("-nan", .real .nan)]

/-- A value that has a name, if one comes next. -/
def readNamed? (t : Text) : Option (Value × Text) :=
  named.findSome? fun (name, v) => (Text.dropStart? name t).map fun rest => (v, rest)

end JqFlow.Toml
