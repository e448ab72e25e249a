import JqFlow.Text.Basic

/-!
# Quoted strings

String literals are written as JSON strings: in double quotes, with a backslash before what cannot
stand there. Code points beyond ASCII are written as they are.

## Main definitions

- `Quoted.encode`, `Quoted.quote`: writing
- `Quoted.decode`, `Quoted.unquote`: reading
-/

namespace JqFlow.Quoted

/-- How one code point is written between double quotes. -/
def encodeOne : CodePoint → Text
  | .scalar '"' => "\\\""
  | .scalar '\\' => "\\\\"
  | .scalar '\x08' => "\\b"
  | .scalar '\x0c' => "\\f"
  | .scalar '\n' => "\\n"
  | .scalar '\r' => "\\r"
  | .scalar '\t' => "\\t"
  | c => if c.toNat < 0x20 then "\\u" ++ Text.ofNatHex 4 c.toNat else [c]

/-- A text as it is written between double quotes. -/
def encode (t : Text) : Text :=
  t.replaceEach encodeOne

/-- A text as a string literal. -/
def quote (t : Text) : Text :=
  "\"" ++ encode t ++ "\""

/-- What an escape of one letter stands for. -/
def simpleEscape? : CodePoint → Option CodePoint
  | .scalar '"' => some '"'
  | .scalar '\\' => some '\\'
  | .scalar '/' => some '/'
  | .scalar 'b' => some '\x08'
  | .scalar 'f' => some '\x0c'
  | .scalar 'n' => some '\n'
  | .scalar 'r' => some '\r'
  | .scalar 't' => some '\t'
  | _ => none

/-- The code point with the given four hexadecimal digits. -/
def fourDigits? (a b c d : CodePoint) : Option CodePoint := do
  let a ← a.hexValue?
  let b ← b.hexValue?
  let c ← c.hexValue?
  let d ← d.hexValue?
  CodePoint.ofNat? (((a * 16 + b) * 16 + c) * 16 + d)

/-- The text that stands between double quotes in a string literal. An escape that means nothing
stands for itself. -/
def decode : Text → Text
  | .scalar '\\' :: .scalar 'u' :: a :: b :: c :: d :: rest =>
    match fourDigits? a b c d with
    | some x => x :: decode rest
    | none => CodePoint.scalar '\\' :: CodePoint.scalar 'u' :: decode (a :: b :: c :: d :: rest)
  | .scalar '\\' :: c :: rest =>
    match simpleEscape? c with
    | some x => x :: decode rest
    | none => CodePoint.scalar '\\' :: c :: decode rest
  | c :: rest => c :: decode rest
  | [] => []

/-- The text of a string literal. -/
def unquote (literal : Text) : Text :=
  decode (literal.drop 1).dropLast

end JqFlow.Quoted
