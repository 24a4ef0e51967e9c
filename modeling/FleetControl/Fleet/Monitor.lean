import FleetControl.Fleet.State
import FleetControl.Text.Quoted

/-!
# The status monitor

In every round the monitor looks at the members in order. A member that does not run only gets its
status text brought up to date; for one that runs, the monitor notes the time of its last transition
and begins a probe, a task of its own. Once all members are looked at, the monitor waits for the
probes in order; a probe that unwinds degrades its member. A round that outlasts the next tick is
followed by another one at once.

Every access to a record is a step of its own, so anything may happen in between: between the look
at a member and the note of its transition, and between the two accesses of a probe that succeeds.
The monitor sees its stop signal only where it waits. The probes of the round are then abandoned,
each where it waits next.
-/

namespace FleetControl

open FleetControl.Text

/-- A probe that the monitor began: its slot, and the transition that was noted before. -/
structure Watch where
  slot : Nat
  seen : Nanos
deriving DecidableEq, Repr

/-- What the monitor is doing. -/
inductive MonitorPhase where
  /-- Waiting for the next tick. -/
  | idle
  /-- About to see whether the member of a slot runs. -/
  | looking (slot : Nat) (begun : List Watch)
  /-- It does not: about to bring its text up to date. -/
  | refreshing (slot : Nat) (begun : List Watch)
  /-- It does: about to note its last transition and begin a probe. -/
  | noting (slot : Nat) (begun : List Watch)
  /-- Waiting for the probes that are left. -/
  | joining (left : List Watch)
  | over
deriving DecidableEq, Repr

/-- The monitor. -/
structure Monitor where
  interval : Nanos
  /-- When the next tick is due. -/
  due : Nanos
  phase : MonitorPhase := .idle
deriving DecidableEq, Repr

/-- What a probe is doing. -/
inductive ProbePhase where
  | begun
  /-- Waiting for the answer to a question asked with a configuration at a wall time. -/
  | asking (config : MemberConfig) (started : Int)
  /-- About to read the text of a healthy member. -/
  | healthy (config : MemberConfig) (report : ProbeReport)
  /-- About to write the report to the record. -/
  | committing (config : MemberConfig) (report : ProbeReport) (text : String)
  /-- About to degrade the record. -/
  | failing (fault : ProbeFault) (started : Int)
  | finished
  | unwound (text : String)
deriving DecidableEq, Repr

/-- The task of one probe. -/
structure Probe where
  slot : Nat
  seen : Nanos
  phase : ProbePhase := .begun
  /-- The monitor abandoned the probe. -/
  abandoned : Bool := false
deriving DecidableEq, Repr

/-- How late a tick may come without delaying the ticks after it. -/
def tickTolerance : Nanos := Nanos.ofMillis 5

/-- When the tick after one that was due at `due` and came at `now` is due. -/
def nextTick (due now interval : Nanos) : Nanos :=
  if due + tickTolerance < now then now + interval else due + interval

/-- The cause that is told of a probe that unwound. `N` stands for the number of its task. -/
def unwindCause (text : String) : String := "task N panicked with message " ++ quoted text

/-- The monitor with its probes, and the fleet it watches. -/
structure Watching where
  fleet : Fleet
  monitor : Monitor
  probes : List Probe

namespace Watching

/-- The probe of a slot. -/
def probe? (watching : Watching) (slot : Nat) : Option Probe :=
  watching.probes.find? (·.slot = slot)

/-- Changes the probe of a slot. -/
def setProbe (watching : Watching) (probe : Probe) : Watching :=
  { watching with
    probes := watching.probes.map fun p => if p.slot = probe.slot then probe else p }

/-- Removes the probe of a slot. -/
def dropProbe (watching : Watching) (slot : Nat) : Watching :=
  { watching with probes := watching.probes.filter (·.slot ≠ slot) }

/-- Puts the monitor into a phase. -/
def setPhase (watching : Watching) (phase : MonitorPhase) : Watching :=
  { watching with monitor := { watching.monitor with phase } }

/-- A tick begins a round, unless the stop signal fired. -/
def tick? (watching : Watching) : Option Watching :=
  let monitor := watching.monitor
  let now := watching.fleet.clock.instant
  if monitor.phase = .idle ∧ monitor.due ≤ now ∧ ¬ watching.fleet.stopFired then
    some { watching with
      monitor := { monitor with
        due := nextTick monitor.due now monitor.interval, phase := .looking 0 [] } }
  else none

/-- The monitor takes its next step through the members. -/
def survey? (watching : Watching) : Option Watching :=
  match watching.monitor.phase with
  | .looking slot begun =>
      match watching.fleet.member? slot with
      | none => some (watching.setPhase (.joining begun))
      | some member =>
          some (watching.setPhase
            (if member.running then .noting slot begun else .refreshing slot begun))
  | .refreshing slot begun =>
      let fleet := watching.fleet.changeMember slot
        (·.refreshStoppedText watching.fleet.clock.wall)
      some ({ watching with fleet }.setPhase (.looking (slot + 1) begun))
  | .noting slot begun =>
      match watching.fleet.member? slot with
      | none => none
      | some member =>
          let seen := member.transition.instant
          let begun := begun ++ [{ slot, seen }]
          let probes := watching.probes ++ [{ slot, seen }]
          some ({ watching with probes }.setPhase (.looking (slot + 1) begun))
  | _ => none

/-- The monitor takes note of the end of the next probe it waits for, or of the end of the round. A
probe that unwound degrades its member, unless the root signal fired. -/
def join? (watching : Watching) : Option Watching :=
  match watching.monitor.phase with
  | .joining [] => some (watching.setPhase .idle)
  | .joining (watch :: left) => do
      let probe ← watching.probe? watch.slot
      let next := (watching.dropProbe watch.slot).setPhase (.joining left)
      match probe.phase with
      | .finished => some next
      | .unwound text =>
          if watching.fleet.rootFired then some next
          else
            let fleet := watching.fleet.degrade watch.slot watch.seen "probing"
              watching.fleet.clock.wall (unwindCause text)
            some { next with fleet }
      | _ => none
  | _ => none

/-- The monitor sees its stop signal where it waits, and is over. Probes that were only begun end
with it; the others are abandoned where they wait next. -/
def quit? (watching : Watching) : Option Watching :=
  let quit : Watching :=
    { watching with
      fleet := { watching.fleet with doneFired := true }
      probes := (watching.probes.filter (·.phase ≠ .begun)).map ({ · with abandoned := true }) }
  if watching.fleet.stopFired then
    match watching.monitor.phase with
    | .idle => some (quit.setPhase .over)
    | .joining _ => some (quit.setPhase .over)
    | _ => none
  else none

/-- A probe takes a step by itself. -/
def advance? (watching : Watching) (slot : Nat) : Option (Watching × List Command) := do
  let probe ← watching.probe? slot
  let member ← watching.fleet.member? slot
  let clock := watching.fleet.clock
  match probe.phase with
  | .begun =>
      let config := member.config
      some (watching.setProbe { probe with phase := .asking config clock.wall },
        [.probe slot config])
  | .healthy config report =>
      let text := member.healthyText clock.wall
      some (watching.setProbe { probe with phase := .committing config report text }, [])
  | .committing config report text =>
      let next := watching.setProbe { probe with phase := .finished }
      match member.updateStatusSince probe.seen (·.commit config.clientUrl text report) with
      | (member, true) =>
          let fleet := watching.fleet.changeMember slot fun _ => member
          let state := MemberState.ofLeadership report.status.isLeader
          some ({ next with fleet := fleet.recordState slot state report.status.dbSize }, [])
      | (_, false) => some (next, [])
  | .failing fault started =>
      let fleet := watching.fleet.recordProbeFailure slot fault.stage
      let fleet :=
        fleet.degrade slot probe.seen fault.stage.activity started fault.source.message
      some ({ watching.setProbe { probe with phase := .finished } with fleet }, [])
  | _ => none

/-- A probe gets its answer. One that was abandoned may have been about to get it. -/
def answered? (watching : Watching) (slot : Nat) (answer : Answer ProbeReport) :
    Option Watching := do
  let probe ← watching.probe? slot
  let .asking config started := probe.phase | none
  let phase : ProbePhase :=
    match answer with
    | .unwound text => .unwound text
    | .reply (.ok report) => .healthy config report
    | .reply (.error fault) => if fault.isCancelled then .finished else .failing fault started
  some (watching.setProbe { probe with phase })

/-- An abandoned probe ends where it waits. -/
def drop? (watching : Watching) (slot : Nat) : Option Watching := do
  let probe ← watching.probe? slot
  let .asking .. := probe.phase | none
  if probe.abandoned then some (watching.dropProbe slot) else none

end Watching

end FleetControl
