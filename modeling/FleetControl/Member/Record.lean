import FleetControl.Error
import FleetControl.Member.Config
import FleetControl.Member.Status
import FleetControl.Text.RelativeTime

/-!
# Member records

One record per slot of the fleet: the configuration in force, the snapshot, the time of the last
structural transition, and whether that transition left the member running. Only structural
operations change the transition and the running flag. A running member whose snapshot was degraded
keeps being probed.

Every operation is one exchange under the record's lock. Writers that report an observation carry
the transition instant they saw when they began, and write nothing if another transition happened
since.
-/

namespace FleetControl

open FleetControl.Text

/-- The two clocks at one moment. -/
structure Clock where
  /-- The monotonic clock, which drives cooldowns. -/
  instant : Nanos := 0
  /-- The wall clock, which drives texts, in nanoseconds since the epoch. -/
  wall : Int := 0
deriving DecidableEq, Repr, Inhabited

/-- The record of one member. -/
structure Member where
  index : Nat
  name : String
  config : MemberConfig
  status : MemberStatus
  /-- When the last structural transition happened; at first, when the record was made. -/
  transition : Clock
  /-- Whether that transition left the member running. -/
  running : Bool := false
deriving DecidableEq, Repr, Inhabited

namespace Member

/-- The record of a member that was just launched. -/
def new (index : Nat) (config : MemberConfig) (now : Clock) : Member :=
  { index, name := config.name, config, transition := now
    status := { name := config.name, endpoint := config.clientUrl } }

/-- Puts another configuration in force. -/
def setConfig (member : Member) (config : MemberConfig) : Member := { member with config }

/-- Changes the snapshot. -/
def updateStatus (member : Member) (f : MemberStatus → MemberStatus) : Member :=
  { member with status := f member.status }

/-- Changes the snapshot if no transition happened since `seen`, and says whether it did. -/
def updateStatusSince (member : Member) (seen : Nanos) (f : MemberStatus → MemberStatus) :
    Member × Bool :=
  if member.transition.instant = seen then (member.updateStatus f, true) else (member, false)

/-- The time left before the next transition is allowed. At exactly the interval none is left, but
the transition is still not allowed. -/
def cooldownRemaining (member : Member) (interval now : Nanos) : Option Nanos :=
  let elapsed := now - member.transition.instant
  if interval < elapsed then none else some (interval - elapsed)

/-- Marks the member running, as a follower, right after a start or restart. -/
def markStarted (member : Member) (verb : String) (now : Clock) : Member :=
  let text := member.name ++ " just " ++ verb ++ " (" ++ relativeTime now.wall now.wall ++ ")"
  { member with
    transition := now, running := true
    status := { member.status.setLeadership false with stateText := text } }

/-- Marks the member stopped by a structural operation. -/
def markStopped (member : Member) (now : Clock) : Member :=
  let text := member.name ++ " just stopped (" ++ relativeTime now.wall now.wall ++ ")"
  { member with transition := now, running := false, status := member.status.setStopped text }

/-- The status text of a member that could not be reached while doing `activity`, an attempt begun
at the wall time `started`. -/
def unreachableText (member : Member) (activity : String) (started now : Int) (cause : String) :
    String :=
  member.name ++ " was not reachable while " ++ activity ++ " (" ++ relativeTime started now ++
    " - " ++ cause ++ ")"

/-- Degrades the snapshot of a member that could not be reached, unless a transition happened since
`seen`. Its process is not touched. -/
def markUnreachable (member : Member) (seen : Nanos) (activity : String) (started now : Int)
    (cause : String) : Member × Bool :=
  member.updateStatusSince seen
    (·.setStopped (member.unreachableText activity started now cause))

/-- Brings the text of a stopped member up to date; a running member is left alone. -/
def refreshStoppedText (member : Member) (now : Int) : Member :=
  if member.running then member
  else
    member.updateStatus fun status =>
      { status with
        stateText := member.name ++ " has been stopped (since " ++
          relativeTime member.transition.wall now ++ ")" }

/-- The status text of a member that answers. -/
def healthyText (member : Member) (now : Int) : String :=
  member.name ++ " has been healthy (since " ++ relativeTime member.transition.wall now ++ ")"

end Member

end FleetControl
