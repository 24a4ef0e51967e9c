import FleetControl.Proofs.Fleet.Identity
import FleetControl.Proofs.Simulation.Rounds

/-!
# Calls to a simulated fleet

The steps of a call in simulated surroundings: a process is launched, or torn down and ends, and
meanwhile the monitor is left where it is.
-/

namespace FleetControl.Simulation

theorem SimulatedFleet.launch_of_starts {sim : SimulatedFleet} {slot : Nat}
    (hstarts : slot ∉ sim.failing) (config : MemberConfig) :
    (sim.launch slot config).2 = .ok config ∧
      (sim.launch slot config).1.opDelay = sim.opDelay ∧
      (sim.launch slot config).1.hanging = sim.hanging := by
  rw [launch, if_neg hstarts]
  exact ⟨rfl, rfl, rfl⟩

namespace Timeline

variable {line : Timeline SimulatedFleet} {world : SimulatedFleet} {system after : System}
  {pending : List (Pending SimulatedFleet)} {slot id : Nat} {handle : Handle}

/-- The line with another simulated fleet, this running fleet and these promises. -/
def having (line : Timeline SimulatedFleet) (world : SimulatedFleet) (system : System)
    (pending : List (Pending SimulatedFleet)) : Timeline SimulatedFleet :=
  { line with world, stage := .running system, pending }

/-- A fleet that has just started is such a line. -/
theorem having_ofStart {fleet : Fleet} {tick : Nanos}
    (hstage : line.stage = .running (.ofStart fleet tick)) (hpending : line.pending = []) :
    line.having line.world ((System.ofStart fleet tick).having fleet [] []) [] = line := by
  obtain ⟨around, world, stage, tickInterval, pending, finishTimes⟩ := line
  obtain rfl : stage = _ := hstage
  obtain rfl : pending = [] := hpending
  rfl

theorem having_fault (fault : Fault) : (line.having world system pending).play? (.fault fault) =
    some (line.having (world.suffer fault) system pending, []) := rfl

theorem having_run {event : Event} (hstep : system.step? event = some (after, []))
    (hown : event.isOwn = true) :
    (line.having world system pending).play? (.run event) =
      some (line.having world after pending, []) :=
  play?_run rfl hstep hown

theorem having_outside {event : Outside}
    (hstep : system.step? (.outside event) = some (after, [])) :
    (line.having world system pending).play? (.outside event) =
      some (line.having world after pending, []) := by
  simp only [play?, outside, having, hstep, Option.map_some]

/-- A call tears a process down, which ends without delay. -/
theorem having_teardown (haround : line.around = SimulatedFleet.surroundings)
    (hdelay : world.opDelay = 0) {event : Event}
    (hstep : system.step? event = some (after, teardown slot handle)) (hown : event.isOwn = true) :
    (line.having world system []).play? (.run event) =
      some (line.having (world.hardStop slot) after
        [⟨after.fleet.clock.instant, .ended slot handle⟩], []) := by
  have hsame : (world.hardStop slot).opDelay = 0 := hdelay
  refine (play?_run rfl hstep hown).trans ?_
  simp [follow, teardown, obey, promise, now, Timeline.fleet, having, haround,
    SimulatedFleet.surroundings, hsame]

/-- A call hears that the process it waits for has ended. -/
theorem having_ended (haround : line.around = SimulatedFleet.surroundings)
    (hender : (line.having world system []).ender? handle = some id)
    (hstep : system.step? (.ended id handle) = some (after, [])) :
    (line.having world system [⟨system.fleet.clock.instant, .ended slot handle⟩]).play?
        (.keep 0) =
      some (line.having (world.ended slot) after [], []) := by
  have hkeep : (line.having world system [⟨system.fleet.clock.instant, .ended slot handle⟩]).play?
      (.keep 0) = some ((line.having world system []).keep (.ended slot handle), []) := by
    simp [play?, having, now, Timeline.fleet]
  have hstart : ∀ change,
      (line.having world system []).onStart? (.ended handle) change = none := fun _ => rfl
  rw [hkeep]
  dsimp only [keep]
  rw [hstart, hender, Option.none_or, Option.bind_some]
  simp [onRun?, having, hstep, follow, haround, SimulatedFleet.surroundings]

/-- A call has a process launched. -/
theorem having_launch (haround : line.around = SimulatedFleet.surroundings)
    (hstarts : slot ∉ world.failing) {event : Event} {config : MemberConfig}
    (hstep : system.step? event = some (after, [.launch slot config]))
    (hown : event.isOwn = true) :
    (line.having world system []).play? (.run event) =
      some (line.having (world.launch slot config).1 after
        [⟨after.fleet.clock.instant, .launched slot (.ok config)⟩], []) := by
  refine (play?_run rfl hstep hown).trans ?_
  have hlaunch := obey_launch (line.having world after []) haround slot config
  obtain ⟨houtcome, -, -⟩ := SimulatedFleet.launch_of_starts hstarts config
  simpa [follow, having, now, Timeline.fleet, houtcome] using hlaunch

/-- A call hears of its launch, and nothing more. -/
theorem having_launched (haround : line.around = SimulatedFleet.surroundings)
    (hhanging : slot ∈ world.hanging) {outcome : Except Error MemberConfig}
    (hlauncher : (line.having world system []).launcher? slot = some id)
    (hstep : system.step? (.launched id outcome) = some (after, [.awaitReady slot handle])) :
    (line.having world system [⟨system.fleet.clock.instant, .launched slot outcome⟩]).play?
        (.keep 0) =
      some (line.having world after [], []) := by
  have hkeep :
      (line.having world system [⟨system.fleet.clock.instant, .launched slot outcome⟩]).play?
          (.keep 0) =
        some ((line.having world system []).keep (.launched slot outcome), []) := by
    simp [play?, having, now, Timeline.fleet]
  have hstart : (line.having world system []).onStart? (.launched outcome) = none := rfl
  rw [hkeep, keep, hstart, hlauncher, Option.none_or, Option.bind_some]
  simp [onRun?, having, hstep, follow, obey, haround, SimulatedFleet.surroundings,
    SimulatedFleet.ready, hhanging]

/-- In this moment the monitor of a running fleet is where it was, and no wait is given up. -/
structure Calm (monitor : Monitor) (moment : Moment (Timeline SimulatedFleet) Cue) : Prop where
  running : ∃ system, moment.before.stage = .running system ∧ system.monitor = monitor
  kept : ∀ id, moment.event ≠ .run (.abandoned id)

/-- A member is stopped. -/
theorem exists_stopped {fleet : Fleet} {member : Member} (system : System)
    (haround : line.around = SimulatedFleet.surroundings) (hdelay : world.opDelay = 0)
    (hmember : fleet.member? slot = some member) (hprocess : fleet.process? slot = some handle) :
    ∃ history, (∀ moment ∈ history, Calm system.monitor moment) ∧
      Course play? (line.having world (system.having fleet [] []) []) history
        (line.having ((world.hardStop slot).ended slot)
          (system.having ((fleet.waited (Calling.cooledAt fleet slot)).release slot .stop)
            [⟨0, .stop slot, .finished (.ok ())⟩] []) []) := by
  have hender : ∀ world fleet, (line.having world
      (system.having fleet [⟨0, .stop slot, .ending handle (.ok ())⟩] [0]) []).ender? handle =
        some 0 := by
    simp [ender?, having, System.having]
  refine ⟨_, ?_, .next (.next (.next (.next (.single
    (having_run (System.having_call_stop system (Fleet.slot_lt hmember)) rfl))
    (having_run (System.having_lock_stop system hprocess) rfl))
    (having_outside (System.having_wait system _)))
    (having_teardown haround hdelay (System.having_cooled_stop system hprocess) rfl))
    (having_ended haround (hender ..) (System.having_ended_stop system))⟩
  intro moment hmem
  simp only [List.mem_append, List.mem_singleton, or_assoc] at hmem
  rcases hmem with rfl | rfl | rfl | rfl | rfl <;> exact ⟨⟨_, rfl, rfl⟩, by simp⟩

end Timeline

end FleetControl.Simulation
