import FleetControl.Simulation.Timeline

/-!
# Rehearsing a fleet

The start of a fleet in simulated surroundings, and calls to it once it runs. Each of them lets
virtual time pass until it is finished, up to a limit.
-/

namespace FleetControl.Simulation

/-- How long a start or a call is waited for. -/
def patience : Nanos := Nanos.ofMillis 600000

/-- The most steps that are taken during one wait. -/
def stepLimit : Nat := 1000000000

/-- The result of a call that was given up, or of a start that was. -/
inductive Ending where
  | pending
  | ended (result : Except Stop Unit)

/-- How a rehearsal opens: the start is refused before anything is launched, or runs its course. -/
inductive Opening (σ : Type) where
  | refused (files : Files) (stop : Stop)
  | begun (line : Timeline σ)

namespace Timeline

variable {σ : Type}

/-- How the start of the fleet has ended. -/
def startEnding (line : Timeline σ) : Ending :=
  match line.stage with
  | .running _ => .ended (.ok ())
  | .starting start =>
      match start.phase with
      | .failed error => .ended (.error (.error error))
      | .unwound text => .ended (.error (.unwound text))
      | .started => .ended (.ok ())
      | _ => .pending

/-- The start of the fleet has ended. -/
def startIsOver (line : Timeline σ) : Bool :=
  match line.startEnding with
  | .pending => false
  | .ended _ => true

/-- A fleet whose start is complete runs from now on. -/
def enterRunning (line : Timeline σ) : Timeline σ :=
  match line.stage with
  | .starting start =>
      match start.phase with
      | .started => { line with stage := .running (.ofStart start.fleet line.tickInterval) }
      | _ => line
  | .running _ => line

/-- Opens the rehearsal of a fleet. The root signal fires after `cancelAt`, or has fired before the
start if that is zero. -/
def opening (around : Surroundings σ) (world : σ) (settings : FleetSettings) (token : String)
    (files : Files) (cancelAt : Option Nanos) : Opening σ :=
  match Bootstrap.begin settings token files {} (cancelAt = some 0) with
  | (files, .error stop) => .refused files stop
  | (_, .ok (start, commands)) =>
      let pending : List (Pending σ) :=
        match cancelAt with
        | some (due + 1) => [{ due := due + 1, promise := .fireRoot }]
        | _ => []
      let line : Timeline σ :=
        { around, world, stage := .starting start
          tickInterval := settings.monitor.tickInterval, pending }
      .begun (line.follow (.starting start) commands)

/-- Rehearses the start of a fleet to its end. -/
def rehearse (around : Surroundings σ) (world : σ) (settings : FleetSettings) (token : String)
    (files : Files) (cancelAt : Option Nanos) : Opening σ :=
  match opening around world settings token files cancelAt with
  | .refused files stop => .refused files stop
  | .begun line => .begun (line.advance startIsOver patience stepLimit).enterRunning

/-- Lets time pass. -/
def pass (line : Timeline σ) (duration : Nanos) : Timeline σ :=
  line.advance (fun _ => false) (line.now + duration) stepLimit

/-- Takes the steps of the present instant that are left. -/
def settle (line : Timeline σ) : Timeline σ := line.pass 0

/-- How many calls were made. -/
def callsMade (line : Timeline σ) : Nat :=
  match line.stage with
  | .starting _ => 0
  | .running system => system.made

/-- The result of a call. -/
def resultOf? (line : Timeline σ) (id : Nat) : Option (Except Error Unit) :=
  match line.stage with
  | .starting _ => none
  | .running system => (system.calling.call? id).bind fun call =>
      match call.phase with
      | .finished result => some result
      | _ => none

/-- Gives up a call that is not finished. -/
def giveUp (line : Timeline σ) (id : Nat) : Timeline σ :=
  match line.stage with
  | .starting _ => line
  | .running system =>
      match line.resultOf? id with
      | some _ => line
      | none => { line with stage := .running (system.withCalling (system.calling.giveUp id)) }

/-- The end of a call: its result, and when it was finished. -/
structure Finish where
  instant : Nanos
  /-- None if the call was given up. -/
  result : Option (Except Error Unit)

/-- The end of a call that was waited for. -/
def finishOf (line : Timeline σ) (id : Nat) : Finish :=
  { instant := (line.finishTimes.find? id).getD line.now, result := line.resultOf? id }

/-- Makes a call and waits for its end. -/
def call (line : Timeline σ) (operation : Operation) : Timeline σ × Finish :=
  let id := line.callsMade
  let line := (line.keep (.call operation)).noteFinished
  let line := line.advance (fun line => (line.resultOf? id).isSome) (line.now + patience) stepLimit
  (line.giveUp id, line.finishOf id)

/-- Makes calls, each after its delay, and waits for all of them. -/
def callTogether (line : Timeline σ) (operations : List (Nanos × Operation)) :
    Timeline σ × List Finish :=
  let first := line.callsMade
  let begun := line.now
  let order := operations.zipIdx.mergeSort fun a b => a.1.1 ≤ b.1.1
  let ids := order.zipIdx.map fun (((delay, _), place), rank) => (place, first + rank, delay)
  let line := order.foldl (fun line ((delay, operation), _) =>
    line.promise delay (.call operation)) line
  let allEnded (line : Timeline σ) : Bool := ids.all fun (_, id, _) => (line.resultOf? id).isSome
  let wait (line : Timeline σ) (entry : Nat × Nat × Nanos) : Timeline σ :=
    (line.advance allEnded (begun + entry.2.2 + patience) stepLimit).giveUp entry.2.1
  let line := (ids.foldl wait line).settle
  (line, (List.range operations.length).filterMap fun place =>
    (ids.find? (·.1 = place)).map fun (_, id, delay) =>
      match line.resultOf? id with
      | some _ => line.finishOf id
      | none => { instant := begun + delay + patience, result := none })

end Timeline

end FleetControl.Simulation
