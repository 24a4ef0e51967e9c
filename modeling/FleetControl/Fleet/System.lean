import FleetControl.Fleet.Bootstrap
import FleetControl.Fleet.Call
import FleetControl.Fleet.Monitor

/-!
# A running fleet

Calls, the status monitor and its probes share the state of the fleet. The system takes one event at
a time, in any order that the events' own conditions allow, and answers with commands.
-/

namespace FleetControl

/-- A running fleet with its tasks. -/
structure System where
  fleet : Fleet
  calls : List Call := []
  line : List Nat := []
  made : Nat := 0
  monitor : Monitor
  probes : List Probe := []

/-- What happens to a running fleet. -/
inductive Event where
  /-- Something that no task of the controller does. -/
  | outside (event : Outside)
  /-- A caller makes a call. -/
  | call (operation : Operation)
  /-- A call goes on by itself. -/
  | advance (id : Nat)
  /-- The launch that a call waits for has ended. -/
  | launched (id : Nat) (outcome : Except Error MemberConfig)
  /-- The process that a call waits for is ready, or never will be. -/
  | ready (id : Nat) (outcome : Except Error Unit)
  /-- A call sees the root signal. -/
  | abandoned (id : Nat)
  /-- A process that a call waits for has ended. -/
  | ended (id : Nat) (handle : Handle)
  /-- The monitor begins a round. -/
  | tick
  /-- The monitor takes its next step through the members. -/
  | survey
  /-- The monitor takes note of the end of a probe or of the round. -/
  | join
  /-- The monitor sees its stop signal. -/
  | quit
  /-- A probe goes on by itself. -/
  | probe (slot : Nat)
  /-- A probe gets its answer. -/
  | answered (slot : Nat) (answer : Answer ProbeReport)
  /-- An abandoned probe ends. -/
  | drop (slot : Nat)

namespace System

/-- The calls of a system. -/
def calling (system : System) : Calling :=
  { fleet := system.fleet, calls := system.calls, line := system.line, made := system.made }

/-- A system with other calls. -/
def withCalling (system : System) (calling : Calling) : System :=
  { system with
    fleet := calling.fleet, calls := calling.calls, line := calling.line, made := calling.made }

/-- The monitor of a system. -/
def watching (system : System) : Watching :=
  { fleet := system.fleet, monitor := system.monitor, probes := system.probes }

/-- A system with another state of its monitor. -/
def withWatching (system : System) (watching : Watching) : System :=
  { system with
    fleet := watching.fleet, monitor := watching.monitor, probes := watching.probes }

/-- The system that a completed start leaves. The first tick is due one interval later. -/
def ofStart (fleet : Fleet) (tickInterval : Nanos) : System :=
  { fleet, monitor := { interval := tickInterval, due := fleet.clock.instant + tickInterval } }

/-- Takes one event. -/
def step? (system : System) : Event → Option (System × List Command)
  | .outside event => (system.fleet.outside? event).map fun fleet => ({ system with fleet }, [])
  | .call operation => some (system.withCalling (system.calling.make operation), [])
  | .advance id => (system.calling.advance? id).map onCalling
  | .launched id outcome => (system.calling.launched? id outcome).map onCalling
  | .ready id outcome => (system.calling.ready? id outcome).map onCalling
  | .abandoned id => (system.calling.abandoned? id).map onCalling
  | .ended id handle =>
      (system.calling.ended? id handle).map fun calling => (system.withCalling calling, [])
  | .tick => system.watching.tick?.map onWatching
  | .survey => system.watching.survey?.map onWatching
  | .join => system.watching.join?.map onWatching
  | .quit => system.watching.quit?.map onWatching
  | .probe slot =>
      (system.watching.advance? slot).map fun (watching, commands) =>
        (system.withWatching watching, commands)
  | .answered slot answer => (system.watching.answered? slot answer).map onWatching
  | .drop slot => (system.watching.drop? slot).map onWatching
where
  /-- A step of the calls. -/
  onCalling : Calling × List Command → System × List Command
    | (calling, commands) => (system.withCalling calling, commands)
  /-- A step of the monitor. -/
  onWatching (watching : Watching) : System × List Command := (system.withWatching watching, [])

/-- Takes events one after the other, and collects the commands. -/
def run? (system : System) : List Event → Option (System × List Command)
  | [] => some (system, [])
  | event :: rest => do
      let (next, commands) ← system.step? event
      let (last, more) ← run? next rest
      return (last, commands ++ more)

end System

end FleetControl
