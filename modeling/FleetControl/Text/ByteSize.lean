import FleetControl.Number.Decimal

/-!
# Sizes for people

A number of bytes is written in the largest decimal unit in which it is at least one, with two
decimal places unless nothing is left after the point: `512 B`, `24.58 kB`, `1 MB`. The value is
scaled as a double, one division by a thousand per unit.
-/

namespace FleetControl.Text

open FleetControl.Number

/-- The units of `byteSize`, each a thousand times the one before it. -/
def byteUnits : List String := ["kB", "MB", "GB", "TB", "PB", "EB"]

/-- Divides by a thousand as long as a larger unit is left and the value is at least a thousand. -/
def scaleBytes (value : Binary64) (unit : String) : List String → Binary64 × String
  | [] => (value, unit)
  | larger :: rest =>
      match value with
      | .finite _ mantissa exponent =>
          let (numerator, denominator) := Binary64.ratio mantissa exponent
          if 1000 * denominator ≤ numerator then scaleBytes (value.divNat 1000) larger rest
          else (value, unit)
      | _ => (value, unit)

/-- The text of a number of bytes. A fraction of at most one unit in the last place of one counts
as nothing left after the point. -/
def byteSize (bytes : Nat) : String :=
  let (value, unit) := scaleBytes (Binary64.ofNat bytes) "B" byteUnits
  match value with
  | .finite _ mantissa exponent =>
      let (numerator, denominator) := Binary64.ratio mantissa exponent
      let whole := (numerator % denominator) * Binary64.leastFullMantissa ≤ denominator
      Binary64.fixedPlaces numerator denominator (if whole then 0 else 2) ++ " " ++ unit
  | other => other.text ++ " " ++ unit

end FleetControl.Text
