import ServiceMesh.Decimal.Binary64
import ServiceMesh.Decimal.Rounding

/-!
# Durations

A duration is a whole number of nanoseconds below `2 ^ 64` seconds. Arithmetic that
would leave the range stops at the longest duration.
-/

namespace ServiceMesh

/-- A time span on the nanosecond grid. -/
structure Duration where
  nanoseconds : Nat
  inRange : nanoseconds < 18_446_744_073_709_551_616 * 1_000_000_000
  deriving DecidableEq

namespace Duration

/-- Nanoseconds in a second. -/
def perSecond : Nat := 1_000_000_000

/-- The number of representable durations. -/
def bound : Nat := 18_446_744_073_709_551_616 * 1_000_000_000

/-- The duration of `n` nanoseconds, or the longest one. -/
def clamp (n : Nat) : Duration :=
  ⟨min n (18_446_744_073_709_551_616 * 1_000_000_000 - 1), by omega⟩

def zero : Duration := clamp 0

/-- The longest duration. -/
def longest : Duration := clamp bound

instance : Inhabited Duration := ⟨zero⟩

@[simp] theorem nanoseconds_clamp (n : Nat) :
    (clamp n).nanoseconds = min n (18_446_744_073_709_551_616 * 1_000_000_000 - 1) := rfl

theorem nanoseconds_clamp_of_lt {n : Nat}
    (h : n < 18_446_744_073_709_551_616 * 1_000_000_000) :
    (clamp n).nanoseconds = n := by
  simp only [nanoseconds_clamp]
  omega

/-- A number of milliseconds. -/
def ofMillis (ms : Nat) : Duration := clamp (ms * 1_000_000)

/-- Whole seconds. -/
def secs (d : Duration) : Nat := d.nanoseconds / perSecond

/-- Nanoseconds after the last whole second. -/
def subsecond (d : Duration) : Nat := d.nanoseconds % perSecond

/-- Whole milliseconds. -/
def millis (d : Duration) : Nat := d.nanoseconds / 1_000_000

/-- Seconds and nanoseconds together, or the longest duration. -/
def ofParts (secs nanos : Nat) : Duration := clamp (secs * perSecond + nanos)

/-- The sum, or the longest duration. -/
def add (a b : Duration) : Duration := clamp (a.nanoseconds + b.nanoseconds)

instance : Add Duration := ⟨add⟩

@[simp] theorem nanoseconds_add (a b : Duration) :
    (a + b).nanoseconds =
      min (a.nanoseconds + b.nanoseconds) (18_446_744_073_709_551_616 * 1_000_000_000 - 1) := rfl

/-- An equal share of the duration, rounded down. A share among none is the whole. -/
def share (d : Duration) (count : Nat) : Duration :=
  if count = 0 then d else clamp (d.nanoseconds / count)

/-- Seconds as a binary64 number: whole seconds and the fraction are converted each on
its own and then added. -/
def toSeconds (d : Duration) : Float :=
  Float.ofNat d.secs + Float.ofNat d.subsecond / 1000000000.0

/-- Milliseconds as a binary64 number. -/
def toMilliseconds (d : Duration) : Float := d.toSeconds * 1000.0

/-- The duration nearest to a number of seconds. Negative numbers and NaN give the
empty duration, numbers beyond the range the longest one. -/
def ofSeconds (seconds : Float) : Duration :=
  if seconds > 0.0 then
    match Decimal.Binary64.ofFloat? seconds with
    | none => longest
    | some x => clamp (Decimal.roundHalfEven (x.ratio.1 * perSecond) x.ratio.2)
  else zero

end Duration

end ServiceMesh
