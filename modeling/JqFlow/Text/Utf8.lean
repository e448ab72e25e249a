import JqFlow.Text.Basic

/-!
# UTF-8

Files and what a renderer says are bytes; texts are written to them and read from them in UTF-8.
Surrogates have no written form, and reading is strict: it stops at the first bytes that are the
form of no scalar value, and says which bytes these are.

## Main definitions

- `Utf8.encode?`: writing, refused for a text with surrogates
- `Utf8.decode`: reading
- `Utf8.DecodeError`, `DecodeError.message`: where reading stops, and why
-/

namespace JqFlow

/-- The content of a file. -/
abbrev Bytes := List UInt8

namespace Utf8

/-- The bytes of a text, unless it has a surrogate. -/
def encode? (t : Text) : Option Bytes :=
  (t.mapM CodePoint.toChar?).map (·.flatMap String.utf8EncodeChar)

/-- Why bytes are the form of no scalar value. -/
inductive Cause
  | invalidStart
  | invalidContinuation
  | unexpectedEnd
  deriving DecidableEq

/-- Where reading stops: `length` bytes from `position` on, the first of which is `first`. -/
structure DecodeError where
  position : Nat
  length : Nat
  first : UInt8
  cause : Cause
  deriving DecidableEq

/-- What a first byte says: how many bytes follow, in which range the next one has to be, and what
the first byte adds to the number. -/
structure Lead where
  following : Nat
  low : Nat
  high : Nat
  value : Nat

/-- A first byte. Two ranges for the second byte are narrower than the others, because longer
forms than needed, surrogates and numbers beyond U+10FFFF are no forms at all. -/
def lead? (b : Nat) : Option Lead :=
  if b < 0x80 then some ⟨0, 0, 0, b⟩
  else if b < 0xC2 then none
  else if b < 0xE0 then some ⟨1, 0x80, 0xBF, b - 0xC0⟩
  else if b < 0xF0 then
    some ⟨2, if b = 0xE0 then 0xA0 else 0x80, if b = 0xED then 0x9F else 0xBF, b - 0xE0⟩
  else if b < 0xF5 then
    some ⟨3, if b = 0xF0 then 0x90 else 0x80, if b = 0xF4 then 0x8F else 0xBF, b - 0xF0⟩
  else none

/-- A form that has begun: where, with which byte, how many of its bytes were read, and what the
rest of it has to be. -/
structure Begun where
  position : Nat
  first : UInt8
  read : Nat
  rest : Lead

/-- A form that is given up. -/
def Begun.refuse (f : Begun) (cause : Cause) : DecodeError :=
  ⟨f.position, f.read, f.first, cause⟩

/-- The form with one byte more, if the byte fits. -/
def Begun.next? (f : Begun) (b : Nat) : Option Begun :=
  if f.rest.low ≤ b ∧ b ≤ f.rest.high then
    some { f with
      read := f.read + 1
      rest := ⟨f.rest.following - 1, 0x80, 0xBF, f.rest.value * 64 + (b - 0x80)⟩ }
  else none

/-- The text of bytes from a position on, within a form or between two. -/
def decodeFrom (position : Nat) : Option Begun → Bytes → Except DecodeError Text
  | none, [] => .ok []
  | some f, [] => .error (f.refuse .unexpectedEnd)
  | none, b :: bytes =>
    match lead? b.toNat with
    | none => .error ⟨position, 1, b, .invalidStart⟩
    | some lead =>
      if lead.following = 0 then
        (decodeFrom (position + 1) none bytes).map (.scalar (Char.ofNat lead.value) :: ·)
      else decodeFrom (position + 1) (some ⟨position, b, 1, lead⟩) bytes
  | some f, b :: bytes =>
    match f.next? b.toNat with
    | none => .error (f.refuse .invalidContinuation)
    | some f =>
      if f.rest.following = 0 then
        (decodeFrom (position + 1) none bytes).map (.scalar (Char.ofNat f.rest.value) :: ·)
      else decodeFrom (position + 1) (some f) bytes

/-- The text of bytes. -/
def decode (bytes : Bytes) : Except DecodeError Text :=
  decodeFrom 0 none bytes

/-- A cause in words. -/
def Cause.message : Cause → Text
  | .invalidStart => "invalid start byte"
  | .invalidContinuation => "invalid continuation byte"
  | .unexpectedEnd => "unexpected end of data"

/-- A failed reading in words. -/
def DecodeError.message (e : DecodeError) : Text :=
  let bytes : Text :=
    if e.length = 1 then
      "byte 0x" ++ Text.ofNatHex 2 e.first.toNat ++ " in position " ++ Text.ofNat e.position
    else
      "bytes in position " ++ Text.ofNat e.position ++ "-" ++
        Text.ofNat (e.position + e.length - 1)
  "'utf-8' codec can't decode " ++ bytes ++ ": " ++ e.cause.message

end Utf8

end JqFlow
