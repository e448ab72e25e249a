import JqFlow.Number.Decimal
import JqFlow.Number.Shortest

/-!
# Waiting

How long a renderer may take. A time limit is a number of seconds; the clock that a renderer is
waited for with counts milliseconds, and not very many of them.

## Main definitions

- `Seconds`: a time span
- `Seconds.unmeasurable?`: why the clock cannot measure a time span
- `Seconds.le`: the order of time spans
-/

namespace JqFlow

/-- A number of seconds, whole or not. -/
inductive Seconds
  | whole (n : Int)
  | real (x : Binary64)
  deriving DecidableEq

/-- Why a clock cannot measure a time span. -/
inductive ClockFault
  | noNumber
  | infinite
  | tooLarge
  | beyondClock
  | tooLong
  deriving DecidableEq

/-- A fault of the clock in words. -/
def ClockFault.message : ClockFault → Text
  | noNumber => "cannot convert float NaN to integer"
  | infinite => "cannot convert float infinity to integer"
  | tooLarge => "int too large to convert to float"
  | beyondClock => "timestamp too large to convert to C _PyTime_t"
  | tooLong => "timeout is too large"

namespace Seconds

/-- The nearest value of the binary format. -/
def toBinary64 : Seconds → Binary64
  | whole n => .ofInt n
  | real x => x

/-- The number of seconds as it is written. -/
def toText : Seconds → Text
  | whole n => Text.ofInt n
  | real x => x.toText

/-- Not longer than. -/
def le (s t : Seconds) : Bool :=
  s.toBinary64.le t.toBinary64

/-- No time at all. -/
def zero : Seconds := .whole 0

/-- So many milliseconds the clock can wait. -/
def clockLimit : Nat := pow2 31 - 1

/-- So many milliseconds have a number of nanoseconds that the clock can hold. -/
def nanosecondLimit : Nat := (pow2 63 - 1) / pow10 6

/-- A number of milliseconds, in seconds. -/
def ofMilliseconds (n : Nat) : Binary64 :=
  .ofRatio false n 1000

/-- Why the clock cannot measure a time span, if it cannot. -/
def unmeasurable? (s : Seconds) : Option ClockFault :=
  match s with
  | whole n =>
    match Binary64.ofInt n with
    | .infinite _ => some .tooLarge
    | x => beyond x
  | real x => beyond x
where
  /-- Where a value lies beyond what the clock can hold. -/
  beyond (x : Binary64) : Option ClockFault :=
    if x.le (ofMilliseconds clockLimit) then none
    else if x = .nan then some .noNumber
    else if x.le (ofMilliseconds nanosecondLimit) then some .tooLong
    else if x.le (.ofDecimal false 1 305) then some .beyondClock
    else some .infinite

end Seconds

end JqFlow
