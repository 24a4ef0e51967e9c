import FleetControl.Fleet.State

/-!
# Structural calls

Stopping and restarting a member and shutting the fleet down are calls. A call takes its place in
the line for the fleet lock, whose head holds the lock, and keeps it until it is finished. A member
is stopped or restarted only after its cooldown, plus a margin. What a call waits for outside comes
to it as an event.
-/

namespace FleetControl

/-- What a call is to do. -/
inductive Operation where
  | stop (slot : Nat)
  | restart (slot : Nat)
  | shutdown
deriving DecidableEq, Repr, Inhabited

/-- What a call is doing. -/
inductive CallPhase where
  /-- Waiting for the status monitor to be over. -/
  | draining
  /-- In the line for the fleet lock. -/
  | queued
  /-- Waiting for the end of the member's cooldown. -/
  | cooling (due : Nanos)
  /-- Waiting for the launch of a process. -/
  | launching
  /-- Waiting for the launched process to accept connections. -/
  | awaiting (handle : Handle)
  /-- Waiting for the end of a process, with the result that follows. -/
  | ending (handle : Handle) (result : Except Error Unit)
  /-- Stopping the slots that are left; the processes that have not ended yet. -/
  | emptying (left : List Nat) (alive : List Handle)
  | finished (result : Except Error Unit)

/-- A call. -/
structure Call where
  id : Nat
  operation : Operation
  phase : CallPhase

/-- The calls to a fleet, and the line for its lock. -/
structure Calling where
  fleet : Fleet
  calls : List Call := []
  /-- The calls in line, by number; the first one holds the lock. -/
  line : List Nat := []
  /-- How many calls were made. -/
  made : Nat := 0

/-- The margin on top of what is left of a cooldown. -/
def cooldownMargin : Nanos := Nanos.ofMillis 100

namespace Calling

/-- The call with a number. -/
def call? (calling : Calling) (id : Nat) : Option Call := calling.calls.find? (·.id = id)

/-- Puts a call into a phase. -/
def setPhase (calling : Calling) (id : Nat) (phase : CallPhase) : Calling :=
  { calling with
    calls := calling.calls.map fun call => if call.id = id then { call with phase } else call }

/-- Finishes a call, which leaves the line. -/
def finish (calling : Calling) (id : Nat) (result : Except Error Unit) : Calling :=
  { calling.setPhase id (.finished result) with line := calling.line.erase id }

/-- The call holds the fleet lock. -/
def holds (calling : Calling) (id : Nat) : Bool := calling.line.head? = some id

/-- A caller makes a call. One for a slot that does not exist fails at once, and a second shutdown
has nothing to do. The first shutdown fires the root signal and stops the monitor. -/
def make (calling : Calling) (operation : Operation) : Calling :=
  let id := calling.made
  let fleet := calling.fleet
  let enter (fleet : Fleet) (phase : CallPhase) (line : List Nat) : Calling :=
    { fleet, calls := calling.calls ++ [{ id, operation, phase }], line, made := id + 1 }
  let inLine (slot : Nat) : Calling :=
    if slot < fleet.members.length then enter fleet .queued (calling.line ++ [id])
    else enter fleet (.finished (.error (.memberNotFound slot))) calling.line
  match operation with
  | .stop slot => inLine slot
  | .restart slot => inLine slot
  | .shutdown =>
      if fleet.shutDown then enter fleet (.finished (.ok ())) calling.line
      else
        enter { fleet with shutDown := true, rootFired := true, stopFired := true } .draining
          calling.line

/-- When a member may change again: at once, or after what is left of its cooldown and a margin. -/
def cooledAt (fleet : Fleet) (slot : Nat) : Nanos :=
  let now := fleet.clock.instant
  match (fleet.member? slot).bind (·.cooldownRemaining fleet.interval now) with
  | none => now
  | some left => now + (left + cooldownMargin)

/-- Tears a process down, with the result that follows its end. -/
def endProcess (calling : Calling) (id slot : Nat) (handle : Handle) (result : Except Error Unit) :
    Calling × List Command :=
  (calling.setPhase id (.ending handle result), teardown slot handle)

/-- What a call does once it holds the lock. -/
def onLock (calling : Calling) (call : Call) : Calling :=
  let fleet := calling.fleet
  match call.operation with
  | .stop slot =>
      match fleet.process? slot with
      | none => calling.finish call.id (.ok ())
      | some _ => calling.setPhase call.id (.cooling (cooledAt fleet slot))
  | .restart slot =>
      if fleet.shutDown then calling.finish call.id (.error .cancelled)
      else
        match fleet.process? slot with
        | some _ => calling.finish call.id (.ok ())
        | none => calling.setPhase call.id (.cooling (cooledAt fleet slot))
  | .shutdown => calling.setPhase call.id (.emptying (List.range fleet.slots.length) [])

/-- What a call does once its member has cooled down. -/
def onCooled (calling : Calling) (call : Call) : Calling × List Command :=
  let fleet := calling.fleet
  match call.operation with
  | .stop slot =>
      match fleet.process? slot with
      | none => (calling.finish call.id (.ok ()), [])
      | some handle =>
          { calling with fleet := fleet.release slot .stop }.endProcess call.id slot handle (.ok ())
  | .restart slot =>
      match fleet.member? slot with
      | none => (calling.finish call.id (.error (.memberNotFound slot)), [])
      | some member =>
          (calling.setPhase call.id .launching,
            [.launch slot { member.config with initialClusterState := .existing }])
  | .shutdown => (calling, [])

/-- The last step of a shutdown: the fleet's directory is removed. -/
def onEmpty (calling : Calling) (call : Call) : Calling :=
  let fleet := calling.fleet
  let (files, result) := fleet.files.removeDirectory fleet.rootDir
  { calling with fleet := { fleet with files } }.finish call.id result

/-- A call goes on by itself. -/
def advance? (calling : Calling) (id : Nat) : Option (Calling × List Command) := do
  let call ← calling.call? id
  let fleet := calling.fleet
  match call.phase with
  | .draining =>
      if fleet.doneFired then
        some ({ calling.setPhase id .queued with line := calling.line ++ [id] }, [])
      else none
  | .queued => if calling.holds id then some (calling.onLock call, []) else none
  | .cooling due => if due ≤ fleet.clock.instant then some (calling.onCooled call) else none
  | .emptying (slot :: left) alive =>
      match fleet.process? slot with
      | none => some (calling.setPhase id (.emptying left alive), [])
      | some handle =>
          some ({ calling with fleet := fleet.release slot .shutdown }.setPhase id
            (.emptying left (alive ++ [handle])), teardown slot handle)
  | .emptying [] [] => some (calling.onEmpty call, [])
  | _ => none

/-- The slot that a call is about. -/
def slotOf : Operation → Nat
  | .stop slot => slot
  | .restart slot => slot
  | .shutdown => 0

/-- The launch that a restart waits for has ended. The configuration that the engine gives back is in
force from now on, also if the process never becomes ready. -/
def launched? (calling : Calling) (id : Nat) (outcome : Except Error MemberConfig) :
    Option (Calling × List Command) := do
  let call ← calling.call? id
  let .launching := call.phase | none
  match outcome with
  | .error error => some (calling.finish id (.error error), [])
  | .ok config =>
      let slot := slotOf call.operation
      let fleet := calling.fleet.changeMember slot (·.setConfig config)
      let handle := fleet.launches
      let fleet := { fleet with launches := handle + 1 }
      some ({ calling with fleet }.setPhase id (.awaiting handle), [.awaitReady slot handle])

/-- The launched process accepts connections, or never will. -/
def ready? (calling : Calling) (id : Nat) (outcome : Except Error Unit) :
    Option (Calling × List Command) := do
  let call ← calling.call? id
  let .awaiting handle := call.phase | none
  let slot := slotOf call.operation
  match outcome with
  | .error error => some (calling.endProcess id slot handle (.error error))
  | .ok () =>
      let fleet := calling.fleet.changeMember slot
        (·.markStarted "restarted" calling.fleet.clock)
      let fleet := (fleet.recordState slot .follower 0).recordTransition slot .restart
      let fleet := fleet.setProcess slot (some handle)
      some ({ calling with fleet }.finish id (.ok ()), [])

/-- A restart that waits for its process sees the root signal. -/
def abandoned? (calling : Calling) (id : Nat) : Option (Calling × List Command) := do
  let call ← calling.call? id
  let .awaiting handle := call.phase | none
  if calling.fleet.rootFired then
    some (calling.endProcess id (slotOf call.operation) handle (.error .cancelled))
  else none

/-- A process that a call waits for has ended. -/
def ended? (calling : Calling) (id : Nat) (handle : Handle) : Option Calling := do
  let call ← calling.call? id
  match call.phase with
  | .ending awaited result => if awaited = handle then some (calling.finish id result) else none
  | .emptying left alive =>
      if handle ∈ alive then some (calling.setPhase id (.emptying left (alive.erase handle)))
      else none
  | _ => none

/-- A caller gives up a call that is not finished. It leaves the line, and a process that it held is
no longer anybody's. -/
def giveUp (calling : Calling) (id : Nat) : Calling :=
  { calling with calls := calling.calls.filter (·.id ≠ id), line := calling.line.erase id }

end Calling

end FleetControl
