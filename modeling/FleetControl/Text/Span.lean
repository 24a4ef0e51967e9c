import FleetControl.Number.Decimal

/-!
# Spans of time

A span is a natural number of nanoseconds. Its text uses the largest of the units seconds,
milliseconds, microseconds and nanoseconds in which it is at least one, with the exact fraction and
no trailing zeros: `3s`, `1.5s`, `500ms`, `1.5µs`, `0ns`.
-/

namespace FleetControl

/-- A span of the monotonic clock, or an instant on it, in nanoseconds. -/
abbrev Nanos := Nat

namespace Nanos

/-- A number of milliseconds. -/
def ofMillis (millis : Nat) : Nanos := millis * 1000000

/-- A number of whole seconds. -/
def ofSeconds (seconds : Nat) : Nanos := seconds * 1000000000

open FleetControl.Number in
/-- The span in units of `10 ^ places` nanoseconds, without trailing zeros. -/
def inUnit (span : Nanos) (places : Nat) (unit : String) : String :=
  (Binary64.Decimal.positional ⟨span, -(places : Int)⟩) ++ unit

/-- The text of a span. -/
def text (span : Nanos) : String :=
  if 1000000000 ≤ span then inUnit span 9 "s"
  else if 1000000 ≤ span then inUnit span 6 "ms"
  else if 1000 ≤ span then inUnit span 3 "µs"
  else inUnit span 0 "ns"

end Nanos

end FleetControl
