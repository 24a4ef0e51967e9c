import FleetControl.Text.ByteSize
import FleetControl.Value

/-!
# Member status

The snapshot of one member that readers see, and the reports of members from which it is filled.
-/

namespace FleetControl

open FleetControl.Number

/-- The observed role of a member. -/
inductive MemberState where
  | stopped
  | follower
  | leader
deriving DecidableEq, Repr, Inhabited

namespace MemberState

/-- The role of a running member. -/
def ofLeadership (isLeader : Bool) : MemberState := if isLeader then .leader else .follower

/-- The word for a role. -/
def word : MemberState → String
  | .stopped => "Stopped"
  | .follower => "Follower"
  | .leader => "Leader"

/-- The number that stands for a role in the metrics. -/
def gauge : MemberState → Nat
  | .stopped => 0
  | .follower => 1
  | .leader => 2

end MemberState

/-- What a member reports about itself. A leader id of zero means that no leader is known. -/
structure StatusReport where
  memberId : Nat
  leaderId : Nat
  dbSize : Nat
deriving DecidableEq, Repr, Inhabited

namespace StatusReport

/-- The member knows a leader. -/
def hasLeader (report : StatusReport) : Bool := report.leaderId ≠ 0

/-- The member is the leader it reports. -/
def isLeader (report : StatusReport) : Bool :=
  report.hasLeader && report.leaderId = report.memberId

/-- The member's id the way the engine prints it. -/
def memberIdHex (report : StatusReport) : String := hexadecimal report.memberId

end StatusReport

/-- The outcome of a full probe: the member's report and the hash of its data. -/
structure ProbeReport where
  status : StatusReport
  hash : Nat
deriving DecidableEq, Repr, Inhabited

/-- The snapshot of one member. -/
structure MemberStatus where
  name : String
  /-- The id that the engine gave the member, in hexadecimal; empty until it is first observed. -/
  id : String := ""
  endpoint : String
  isLeader : Bool := false
  state : MemberState := .stopped
  /-- Advice for people, with a relative time. -/
  stateText : String := ""
  dbSize : Nat := 0
  dbSizeText : String := ""
  hash : Nat := 0
deriving DecidableEq, Repr, Inhabited

namespace MemberStatus

/-- The observed role is that of a stopped member. -/
def isStopped (status : MemberStatus) : Bool := status.state = .stopped

/-- Records whether a running member leads. -/
def setLeadership (status : MemberStatus) (isLeader : Bool) : MemberStatus :=
  { status with isLeader, state := .ofLeadership isLeader }

/-- Falls back to a stopped member: leadership, size and hash are cleared. -/
def setStopped (status : MemberStatus) (stateText : String) : MemberStatus :=
  { status with
    isLeader := false, state := .stopped, stateText, dbSize := 0, dbSizeText := "", hash := 0 }

/-- Records a member's id, the size of its data and their hash. -/
def fill (status : MemberStatus) (memberId dbSize hash : Nat) : MemberStatus :=
  { status with
    id := hexadecimal memberId, dbSize, dbSizeText := Text.byteSize dbSize, hash }

/-- Everything that a successful probe says about a member, with the endpoint it was probed at. -/
def commit (status : MemberStatus) (endpoint stateText : String) (report : ProbeReport) :
    MemberStatus :=
  { status.setLeadership report.status.isLeader with
    id := report.status.memberIdHex, endpoint, stateText
    dbSize := report.status.dbSize, dbSizeText := Text.byteSize report.status.dbSize
    hash := report.hash }

/-- What leader discovery takes from a report: the id, and the leadership once a leader is known. -/
def discover (status : MemberStatus) (report : StatusReport) : MemberStatus :=
  let status := { status with id := report.memberIdHex }
  if report.hasLeader then status.setLeadership report.isLeader else status

/-- A snapshot as plain data. -/
def toValue (status : MemberStatus) : Value :=
  .table [
    ("name", .text status.name),
    ("id", .text status.id),
    ("endpoint", .text status.endpoint),
    ("is_leader", .bool status.isLeader),
    ("state", .text status.state.word),
    ("state_txt", .text status.stateText),
    ("db_size", .ofNat status.dbSize),
    ("db_size_txt", .text status.dbSizeText),
    ("hash", .ofNat status.hash)]

end MemberStatus

end FleetControl
