import FleetControl.Files.Directory
import FleetControl.Member.Record
import FleetControl.Metrics.Store
import FleetControl.Network.EndpointIndex

/-!
# The state of a fleet

Everything that the tasks of the controller share: the records of the members, the processes in
their slots, the signals, the clocks, the metrics and the files. What the controller asks of its
surroundings is not done here but written down as a command.
-/

namespace FleetControl

/-- A launched process, by the number of its launch. -/
abbrev Handle := Nat

/-- What the controller asks of its surroundings. Except for the two that stop a process, each is
answered by an event later on. -/
inductive Command where
  /-- Launch a process for a slot. -/
  | launch (slot : Nat) (config : MemberConfig)
  /-- Report when a process accepts connections. -/
  | awaitReady (slot : Nat) (handle : Handle)
  /-- Stop a process at once. -/
  | hardStop (slot : Nat) (handle : Handle)
  /-- Release what is held of a process. -/
  | close (slot : Nat) (handle : Handle)
  /-- Report when a process has ended. -/
  | awaitEnd (slot : Nat) (handle : Handle)
  /-- Ask a member for its status. -/
  | query (slot : Nat) (config : MemberConfig)
  /-- Ask a member for its status and the hash of its data. -/
  | probe (slot : Nat) (config : MemberConfig)
deriving DecidableEq, Repr

/-- The teardown of a process, always in this order. -/
def teardown (slot : Nat) (handle : Handle) : List Command :=
  [.hardStop slot handle, .close slot handle, .awaitEnd slot handle]

/-- The state that the tasks of the controller share. -/
structure Fleet where
  rootDir : String
  /-- The least time between two transitions of a member. -/
  interval : Nanos
  members : List Member := []
  /-- The process of each member; none while it is stopped. -/
  slots : List (Option Handle) := []
  endpoints : EndpointIndex := {}
  metrics : Metrics := {}
  files : Files := {}
  clock : Clock := {}
  /-- The root signal: whatever is under way is to be abandoned. -/
  rootFired : Bool := false
  /-- The status monitor is to stop. -/
  stopFired : Bool := false
  /-- The status monitor has stopped. -/
  doneFired : Bool := false
  /-- A shutdown has begun. -/
  shutDown : Bool := false
  /-- How many processes were launched. -/
  launches : Nat := 0
deriving DecidableEq, Repr, Inhabited

namespace Fleet

/-- The record of a slot's member. -/
def member? (fleet : Fleet) (slot : Nat) : Option Member := fleet.members[slot]?

/-- The process in a slot. -/
def process? (fleet : Fleet) (slot : Nat) : Option Handle := fleet.slots[slot]?.join

/-- Changes the record of a slot's member. -/
def changeMember (fleet : Fleet) (slot : Nat) (change : Member → Member) : Fleet :=
  { fleet with members := fleet.members.modify slot change }

/-- Puts a process into a slot, or takes it out. -/
def setProcess (fleet : Fleet) (slot : Nat) (process : Option Handle) : Fleet :=
  { fleet with slots := fleet.slots.set slot process }

/-- The name of a slot's member. -/
def nameOf (fleet : Fleet) (slot : Nat) : String := (fleet.member? slot).elim "" (·.name)

/-- Records a member's role and data size in the metrics. -/
def recordState (fleet : Fleet) (slot : Nat) (state : MemberState) (dbSize : Nat) : Fleet :=
  { fleet with metrics := fleet.metrics.recordState (fleet.nameOf slot) state dbSize }

/-- Counts a transition of a member in the metrics. -/
def recordTransition (fleet : Fleet) (slot : Nat) (kind : TransitionKind) : Fleet :=
  { fleet with metrics := fleet.metrics.recordTransition (fleet.nameOf slot) kind }

/-- Counts a failed probe of a member in the metrics. -/
def recordProbeFailure (fleet : Fleet) (slot : Nat) (stage : ProbeStage) : Fleet :=
  { fleet with metrics := fleet.metrics.recordProbeFailure (fleet.nameOf slot) stage }

/-- Takes the process out of a slot: the member is marked stopped, and its transition recorded. -/
def release (fleet : Fleet) (slot : Nat) (kind : TransitionKind) : Fleet :=
  let fleet := fleet.setProcess slot none
  let fleet := fleet.changeMember slot (·.markStopped fleet.clock)
  (fleet.recordState slot .stopped 0).recordTransition slot kind

/-- Degrades a member that could not be reached, unless a transition happened since `seen`. -/
def degrade (fleet : Fleet) (slot : Nat) (seen : Nanos) (activity : String) (started : Int)
    (cause : String) : Fleet :=
  match fleet.member? slot with
  | none => fleet
  | some member =>
      match member.markUnreachable seen activity started fleet.clock.wall cause with
      | (member, true) => (fleet.changeMember slot fun _ => member).recordState slot .stopped 0
      | (_, false) => fleet

end Fleet

/-- What happens to the state of a fleet by itself: time passes, the owner of the root signal fires
it, or files are changed by others. -/
inductive Outside where
  | time (clock : Clock)
  | fireRoot
  | touch (files : Files)

/-- Applies what happens by itself. The monotonic clock never goes back. -/
def Fleet.outside? (fleet : Fleet) : Outside → Option Fleet
  | .time clock =>
      if fleet.clock.instant ≤ clock.instant then some { fleet with clock } else none
  | .fireRoot => some { fleet with rootFired := true }
  | .touch files => some { fleet with files }

/-- How the question to a member ends: with its answer, or by unwinding the task that asked. -/
inductive Answer (α : Type) where
  | reply (outcome : Except ProbeFault α)
  | unwound (text : String)

end FleetControl
