import FleetControl.Number.Decimal

/-!
# Relative times

A moment is described by its distance from the present: `now`, `3 seconds ago`,
`2 minutes from now`. Moments of the wall clock are whole numbers of nanoseconds since the epoch.
-/

namespace FleetControl.Text

open FleetControl.Number

/-- Nanoseconds in a second. -/
def nanosPerSecond : Nat := 1000000000

/-- The units in which a distance is counted. -/
inductive TimeUnit where
  | second
  | minute
  | hour
  | day
deriving DecidableEq, Repr

/-- The number of seconds in a unit. -/
def TimeUnit.seconds : TimeUnit → Nat
  | .second => 1
  | .minute => 60
  | .hour => 3600
  | .day => 86400

/-- The word for one of the unit. -/
def TimeUnit.word : TimeUnit → String
  | .second => "second"
  | .minute => "minute"
  | .hour => "hour"
  | .day => "day"

/-- The largest unit of which the number of seconds holds at least one; seconds below a minute. -/
def TimeUnit.ofSeconds (seconds : Nat) : TimeUnit :=
  if seconds < 60 then .second
  else if seconds < 3600 then .minute
  else if seconds < 86400 then .hour
  else .day

/-- A count of units, with the plural ending unless there is exactly one. -/
def countOf (count : Nat) (unit : TimeUnit) : String :=
  if count = 1 then "1 " ++ unit.word else decimal count ++ " " ++ unit.word ++ "s"

/-- Describes the moment `t` as seen at the moment `now`, both in nanoseconds since the epoch. -/
def relativeTime (t now : Int) : String :=
  let distance := (now - t).natAbs
  if distance < nanosPerSecond then "now"
  else
    let seconds := distance / nanosPerSecond
    let unit := TimeUnit.ofSeconds seconds
    countOf (seconds / unit.seconds) unit ++ " " ++ (if t ≤ now then "ago" else "from now")

end FleetControl.Text
