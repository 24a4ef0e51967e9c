import FleetControl.Fleet.System
import FleetControl.Simulation.Surroundings

/-!
# Virtual time

A fleet rehearsed in simulated surroundings. Steps take no time; time passes only when no step is
left, and then up to the next instant at which something is due. Among the steps of one instant,
answers of the surroundings come first, then calls in the order in which they were made, then the
monitor, then probes by slot.
-/

namespace FleetControl.Simulation

/-- What the surroundings owe to the fleet. -/
inductive Promise (σ : Type) where
  | fireRoot
  | launched (slot : Nat) (outcome : Except Error MemberConfig)
  | ready (slot : Nat) (handle : Handle) (outcome : Except Error Unit)
  | ended (slot : Nat) (handle : Handle)
  | answer (slot : Nat) (full : Bool) (resolve : σ → σ × Answer ProbeReport)
  /-- A call is to be made. -/
  | call (operation : Operation)

/-- Whether a promise is a probe's answer, which waits for the calls and the monitor. -/
def Promise.isLate {σ : Type} : Promise σ → Bool
  | .answer _ full _ => full
  | _ => false

/-- A promise with the instant at which it is due. -/
structure Pending (σ : Type) where
  due : Nanos
  promise : Promise σ

/-- A fleet that is being started or runs. -/
inductive Stage where
  | starting (start : Bootstrap)
  | running (system : System)

/-- A rehearsed fleet. -/
structure Timeline (σ : Type) where
  around : Surroundings σ
  world : σ
  stage : Stage
  tickInterval : Nanos
  pending : List (Pending σ) := []
  /-- When the calls were finished, by number. -/
  finishTimes : Keyed Nat Nanos := []

namespace Timeline

variable {σ : Type}

/-- The shared state of the fleet. -/
def fleet (line : Timeline σ) : Fleet :=
  match line.stage with
  | .starting start => start.fleet
  | .running system => system.fleet

/-- The present instant. -/
def now (line : Timeline σ) : Nanos := line.fleet.clock.instant

/-- Adds a promise. -/
def promise (line : Timeline σ) (delay : Nanos) (promise : Promise σ) : Timeline σ :=
  { line with pending := line.pending ++ [{ due := line.now + delay, promise }] }

/-- Adds a promise that is kept before all others. -/
def promiseFirst (line : Timeline σ) (promise : Promise σ) : Timeline σ :=
  { line with pending := { due := line.now, promise } :: line.pending }

/-- Applies an event from outside the controller. -/
def outside (line : Timeline σ) (event : Outside) : Timeline σ :=
  let stage :=
    match line.stage with
    | .starting start =>
        match start.step? (.outside event) with
        | some (start, _) => .starting start
        | none => .starting start
    | .running system =>
        match system.step? (.outside event) with
        | some (system, _) => .running system
        | none => .running system
  { line with stage }

/-- Carries out a command of the controller. -/
def obey (line : Timeline σ) : Command → Timeline σ
  | .launch slot config =>
      let (world, files, outcome) :=
        line.around.launch line.world line.now line.fleet.files slot config
      ({ line with world }.outside (.touch files)).promiseFirst (.launched slot outcome)
  | .awaitReady slot handle =>
      match line.around.ready line.world slot with
      | (some delay, outcome) => line.promise delay (.ready slot handle outcome)
      | (none, _) => line
  | .hardStop slot _ => { line with world := line.around.hardStop line.world line.now slot }
  | .close slot _ => { line with world := line.around.close line.world line.now slot }
  | .awaitEnd slot handle =>
      line.promise (line.around.ending line.world slot) (.ended slot handle)
  | .query slot _ => ask line slot false
  | .probe slot _ => ask line slot true
where
  /-- Asks a member. -/
  ask (line : Timeline σ) (slot : Nat) (full : Bool) : Timeline σ :=
    let (world, delay, resolve) := line.around.ask line.world slot full
    { line with world }.promise delay (.answer slot full resolve)

/-- Takes over the state after a step, and carries out its commands. -/
def follow (line : Timeline σ) (stage : Stage) (commands : List Command) : Timeline σ :=
  commands.foldl obey { line with stage }

/-- An event of a start, if it fits. The surroundings change before the commands that follow it. -/
def onStart? (line : Timeline σ) (event : StartEvent) (change : σ → σ := id) :
    Option (Timeline σ) :=
  match line.stage with
  | .starting start => (start.step? event).map fun (start, commands) =>
      { line with world := change line.world }.follow (.starting start) commands
  | .running _ => none

/-- An event of a running fleet, if it fits. The surroundings change before the commands that follow
it. -/
def onRun? (line : Timeline σ) (event : Event) (change : σ → σ := id) : Option (Timeline σ) :=
  match line.stage with
  | .starting _ => none
  | .running system => (system.step? event).map fun (system, commands) =>
      { line with world := change line.world }.follow (.running system) commands

/-- The numbers of the calls that are not finished. -/
def openCalls (line : Timeline σ) : List Nat :=
  match line.stage with
  | .starting _ => []
  | .running system => system.calls.filterMap fun call =>
      match call.phase with
      | .finished _ => none
      | _ => some call.id

/-- The call that waits for the launch of a slot's process. -/
def launcher? (line : Timeline σ) (slot : Nat) : Option Nat :=
  match line.stage with
  | .starting _ => none
  | .running system => (system.calls.find? fun call =>
      match call.phase with
      | .launching => Calling.slotOf call.operation = slot
      | _ => false).map (·.id)

/-- The call that waits for a process to become ready. -/
def awaiter? (line : Timeline σ) (handle : Handle) : Option Nat :=
  match line.stage with
  | .starting _ => none
  | .running system => (system.calls.find? fun call =>
      match call.phase with
      | .awaiting awaited => awaited = handle
      | _ => false).map (·.id)

/-- The call that waits for a process to end. -/
def ender? (line : Timeline σ) (handle : Handle) : Option Nat :=
  match line.stage with
  | .starting _ => none
  | .running system => (system.calls.find? fun call =>
      match call.phase with
      | .ending awaited _ => awaited = handle
      | .emptying _ alive => handle ∈ alive
      | _ => false).map (·.id)

/-- Lets a call go on by itself until it has to wait. The first argument bounds its steps. -/
def driveCall : Nat → Nat → Timeline σ → Timeline σ
  | 0, _, line => line
  | fuel + 1, id, line =>
      match line.onRun? (.advance id) with
      | some next => driveCall fuel id next
      | none => line

/-- Makes a call, which goes on until it has to wait. -/
def makeCall (line : Timeline σ) (operation : Operation) : Timeline σ :=
  match line.stage with
  | .starting _ => line
  | .running system =>
      match line.onRun? (.call operation) with
      | some next => driveCall (system.fleet.slots.length + 4) system.made next
      | none => line

/-- Keeps a promise. One that nobody waits for any more is without effect. -/
def keep (line : Timeline σ) : Promise σ → Timeline σ
  | .fireRoot => line.outside .fireRoot
  | .launched slot outcome =>
      ((line.onStart? (.launched outcome)).or
        ((line.launcher? slot).bind fun id => line.onRun? (.launched id outcome))).getD line
  | .ready slot handle outcome =>
      let change (world : σ) : σ := line.around.readied world line.now slot outcome
      ((line.onStart? (.ready slot outcome) change).or
        ((line.awaiter? handle).bind fun id => line.onRun? (.ready id outcome) change)).getD line
  | .ended slot handle =>
      let change (world : σ) : σ := line.around.ended world line.now slot
      ((line.onStart? (.ended handle) change).or
        ((line.ender? handle).bind fun id => line.onRun? (.ended id handle) change)).getD line
  | .answer slot full resolve =>
      let (world, answer) := resolve line.world
      let change (_ : σ) : σ := world
      (if full then line.onRun? (.answered slot answer) change
        else
          line.onStart? (.answered slot
            (match answer with
            | .unwound text => .unwound text
            | .reply outcome => .reply (outcome.map (·.status)))) change).getD line
  | .call operation => line.makeCall operation

/-- Takes the first pending promise out that is due and satisfies `select`. -/
def takeDue (now : Nanos) (select : Promise σ → Bool) :
    List (Pending σ) → Option (Promise σ × List (Pending σ))
  | [] => none
  | first :: rest =>
      if first.due ≤ now && select first.promise then some (first.promise, rest)
      else (takeDue now select rest).map fun (promise, others) => (promise, first :: others)

/-- Keeps the first promise that is due and satisfies `select`. -/
def keepDue? (line : Timeline σ) (select : Promise σ → Bool) : Option (Timeline σ) :=
  (takeDue line.now select line.pending).map fun (promise, pending) =>
    { line with pending }.keep promise

/-- The slots of the fleet's members. -/
def slots (line : Timeline σ) : List Nat := List.range line.fleet.members.length

/-- A step that the start of a fleet takes by itself. -/
def startStep? (line : Timeline σ) : Option (Timeline σ) :=
  (line.onStart? .abandoned).or <| (line.onStart? .settled).or <|
    line.slots.findSome? fun slot =>
      (line.onStart? (.rested slot)).or (line.onStart? (.attempt slot))

/-- A step that a call takes by itself. -/
def callStep? (line : Timeline σ) : Option (Timeline σ) :=
  line.openCalls.findSome? fun id => (line.onRun? (.advance id)).or (line.onRun? (.abandoned id))

/-- A step of the monitor. -/
def monitorStep? (line : Timeline σ) : Option (Timeline σ) :=
  (line.onRun? .quit).or <| (line.onRun? .survey).or <| (line.onRun? .join).or <|
    line.onRun? .tick

/-- A step that a slot's probe takes, or the answer that it gets. -/
def probeStep? (line : Timeline σ) (slot : Nat) : Option (Timeline σ) :=
  (line.onRun? (.drop slot)).or <| (line.onRun? (.probe slot)).or <|
    line.keepDue? fun
      | .answer asked full _ => full && asked = slot
      | _ => false

/-- The slots with a probe. -/
def probing (line : Timeline σ) : List Nat :=
  match line.stage with
  | .starting _ => []
  | .running system => system.probes.map (·.slot)

/-- The next step of the present instant. -/
def step? (line : Timeline σ) : Option (Timeline σ) :=
  (line.keepDue? fun promise => !promise.isLate).or <| line.startStep?.or <| line.callStep?.or <|
    line.monitorStep?.or <| line.probing.findSome? line.probeStep?

/-- Notes when calls were finished. -/
def noteFinished (line : Timeline σ) : Timeline σ :=
  match line.stage with
  | .starting _ => line
  | .running system =>
      let fresh := system.calls.filter fun call =>
        match call.phase with
        | .finished _ => (Keyed.find? line.finishTimes call.id).isNone
        | _ => false
      { line with finishTimes := line.finishTimes ++ fresh.map fun call => (call.id, line.now) }

/-- The instants at which the controller itself has something to do. -/
def ownDues (line : Timeline σ) : List Nanos :=
  match line.stage with
  | .starting start =>
      match start.phase with
      | .settling due => [due]
      | .searching searches => searches.filterMap fun search =>
          match search.phase with
          | .resting due => some due
          | _ => none
      | _ => []
  | .running system =>
      let calls := system.calls.filterMap fun call =>
        match call.phase with
        | .cooling due => some due
        | _ => none
      if system.monitor.phase = .idle ∧ ¬ system.fleet.stopFired then system.monitor.due :: calls
      else calls

/-- The next instant at which something is due. -/
def nextDue? (line : Timeline σ) : Option Nanos :=
  (line.pending.map (·.due) ++ line.ownDues).filter (line.now < ·) |>.min?

/-- Lets time pass up to an instant. -/
def passTo (line : Timeline σ) (instant : Nanos) : Timeline σ :=
  line.outside (.time { line.fleet.clock with instant })

/-- Lets the fleet go on until the goal is reached, but not beyond the limit. The first argument
bounds the number of steps. -/
def advance (goal : Timeline σ → Bool) (limit : Nanos) : Nat → Timeline σ → Timeline σ
  | 0, line => line
  | fuel + 1, line =>
      if goal line then line
      else
        match line.step? with
        | some next => advance goal limit fuel next.noteFinished
        | none =>
            match line.nextDue? with
            | some due => if limit ≤ due then line.passTo limit
                else advance goal limit fuel (line.passTo due)
            | none => line.passTo limit

end Timeline

end FleetControl.Simulation
