import FleetControl.Proofs.Fleet.Change
import FleetControl.Proofs.Fleet.Turn

/-!
# The steps of the system

Every step of a running fleet is a turn of the calls, a move of the monitor, or comes from outside,
and the lock stays in order. The calls and the monitor never act in one step.
-/

namespace FleetControl.System

/-- The call that is under way. -/
def underway? (system : System) : Option Call := system.calling.underway?

/-- What the engine says with an event. -/
def heard (system : System) (event : Event) : List EngineNote := system.calling.heard event

/-- The transition that is recorded with an event. -/
def recorded? (system : System) (event : Event) : Option Mark := system.calling.recorded? event

/-- One step of the system, by who takes it. -/
inductive Step (system : System) (event : Event) (commands : List Command) (next : System) :
    Prop where
  | turn (hturn : Turn system.fleet system.underway? (system.heard event) commands
        (system.recorded? event) next.fleet next.underway?)
      (hchange : system.calling.Change event next.calling)
      (hmonitor : next.monitor = system.monitor) (hprobes : next.probes = system.probes)
  | move (hmove : system.watching.Move next.watching commands) (hcalls : next.calls = system.calls)
      (hunderway : next.underway? = system.underway?) (hheard : system.heard event = [])
      (hrecorded : system.recorded? event = none)
  | outside {outer : Outside} (houtside : system.fleet.outside? outer = some next.fleet)
      (hevent : event = .outside outer) (hcommands : commands = [])
      (hcalls : next.calls = system.calls) (hunderway : next.underway? = system.underway?)
      (hmonitor : next.monitor = system.monitor) (hprobes : next.probes = system.probes)

variable {system next : System} {event : Event} {commands : List Command}

theorem step?_of_advance {calling : Calling} {id : Nat}
    (hadvance : system.calling.advance? id = some (calling, commands)) :
    system.step? (.advance id) = some (system.withCalling calling, commands) := by
  rw [step?, hadvance]
  rfl

/-- The calls of a system are in order. -/
def Orderly (system : System) : Prop := system.calling.Orderly

theorem orderly_ofStart (fleet : Fleet) (tickInterval : Nanos) :
    (ofStart fleet tickInterval).Orderly where
  numbered := rfl
  holding call hcall := by simp [calling, ofStart] at hcall
  fitting call hcall := by simp [calling, ofStart] at hcall

/-- A step of the calls. -/
theorem step_of_turn {calling : Calling} (hnext : next = system.withCalling calling)
    (hchange : system.calling.Change event calling)
    (hturn : calling.Orderly ∧ Turn system.fleet system.underway? (system.heard event) commands
      (system.recorded? event) calling.fleet calling.underway?) :
    next.Orderly ∧ system.Step event commands next := by
  subst hnext
  exact ⟨hturn.1, .turn hturn.2 hchange rfl rfl⟩

/-- A step of the monitor. -/
theorem step_of_move {watching : Watching} (orderly : system.Orderly)
    (hnext : next = system.withWatching watching)
    (hmove : system.watching.Move watching commands) (hheard : system.heard event = [])
    (hrecorded : system.recorded? event = none) :
    next.Orderly ∧ system.Step event commands next := by
  subst hnext
  exact ⟨orderly.withFleet hmove.aside.size, .move hmove rfl rfl hheard hrecorded⟩

/-- A step of the calls leaves the monitor where it is. -/
theorem exists_of_onCalling {found : Option (Calling × List Command)}
    (hstep : found.map (step?.onCalling system) = some (next, commands)) :
    ∃ calling, found = some (calling, commands) ∧ next = system.withCalling calling := by
  obtain ⟨⟨calling, more⟩, hcalling, hpair⟩ := Option.map_eq_some_iff.mp hstep
  obtain ⟨rfl, rfl⟩ := Prod.mk.inj hpair
  exact ⟨calling, hcalling, rfl⟩

/-- A step of the monitor leaves the calls where they are. -/
theorem exists_of_onWatching {found : Option Watching}
    (hstep : found.map (step?.onWatching system) = some (next, commands)) :
    ∃ watching, found = some watching ∧ next = system.withWatching watching ∧ commands = [] := by
  obtain ⟨watching, hwatching, hpair⟩ := Option.map_eq_some_iff.mp hstep
  obtain ⟨rfl, rfl⟩ := Prod.mk.inj hpair
  exact ⟨watching, hwatching, rfl, rfl⟩

/-- So does a step of a probe. -/
theorem exists_of_advance? {slot : Nat}
    (hstep : system.step? (.probe slot) = some (next, commands)) :
    ∃ watching, system.watching.advance? slot = some (watching, commands) ∧
      next = system.withWatching watching := by
  simp only [step?, Option.map_eq_some_iff, Prod.exists, Prod.mk.injEq] at hstep
  obtain ⟨watching, more, hwatching, rfl, rfl⟩ := hstep
  exact ⟨watching, hwatching, rfl⟩

/-- Every event that the system accepts is one of its steps. -/
theorem step_of_step? (orderly : system.Orderly)
    (hstep : system.step? event = some (next, commands)) :
    next.Orderly ∧ system.Step event commands next := by
  cases event with
  | outside outer =>
      simp only [step?, Option.map_eq_some_iff, Prod.mk.injEq] at hstep
      obtain ⟨fleet, houtside, rfl, rfl⟩ := hstep
      exact ⟨orderly.withFleet (Fleet.Aside.outside houtside).size,
        .outside houtside rfl rfl rfl rfl rfl rfl⟩
  | call operation =>
      obtain ⟨rfl, rfl⟩ := Prod.mk.inj (Option.some.inj hstep)
      exact step_of_turn rfl (.made rfl rfl) (Calling.turn_of_make orderly operation)
  | advance id =>
      obtain ⟨calling, hcalling, rfl⟩ := exists_of_onCalling hstep
      exact step_of_turn rfl (Calling.change_of_advance orderly hcalling)
        (Calling.turn_of_advance orderly hcalling)
  | launched id outcome =>
      obtain ⟨calling, hcalling, rfl⟩ := exists_of_onCalling hstep
      exact step_of_turn rfl (Calling.change_of_launched orderly hcalling)
        (Calling.turn_of_launched orderly hcalling)
  | ready id outcome =>
      obtain ⟨calling, hcalling, rfl⟩ := exists_of_onCalling hstep
      exact step_of_turn rfl (Calling.change_of_ready orderly hcalling)
        (Calling.turn_of_ready orderly hcalling)
  | abandoned id =>
      obtain ⟨calling, hcalling, rfl⟩ := exists_of_onCalling hstep
      exact step_of_turn rfl (Calling.change_of_abandoned hcalling)
        (Calling.turn_of_abandoned orderly hcalling)
  | ended id handle =>
      simp only [step?, Option.map_eq_some_iff, Prod.mk.injEq] at hstep
      obtain ⟨calling, hcalling, rfl, rfl⟩ := hstep
      exact step_of_turn rfl (Calling.change_of_ended orderly hcalling)
        (Calling.turn_of_ended orderly hcalling)
  | tick =>
      obtain ⟨watching, hwatching, rfl, rfl⟩ := exists_of_onWatching hstep
      exact step_of_move orderly rfl (Watching.move_of_tick hwatching) rfl rfl
  | survey =>
      obtain ⟨watching, hwatching, rfl, rfl⟩ := exists_of_onWatching hstep
      exact step_of_move orderly rfl (Watching.move_of_survey hwatching) rfl rfl
  | join =>
      obtain ⟨watching, hwatching, rfl, rfl⟩ := exists_of_onWatching hstep
      exact step_of_move orderly rfl (Watching.move_of_join hwatching) rfl rfl
  | quit =>
      obtain ⟨watching, hwatching, rfl, rfl⟩ := exists_of_onWatching hstep
      exact step_of_move orderly rfl (Watching.move_of_quit hwatching) rfl rfl
  | probe slot =>
      obtain ⟨watching, hwatching, rfl⟩ := exists_of_advance? hstep
      exact step_of_move orderly rfl (Watching.move_of_advance hwatching) rfl rfl
  | answered slot answer =>
      obtain ⟨watching, hwatching, rfl, rfl⟩ := exists_of_onWatching hstep
      exact step_of_move orderly rfl (Watching.move_of_answered hwatching) rfl rfl
  | drop slot =>
      obtain ⟨watching, hwatching, rfl, rfl⟩ := exists_of_onWatching hstep
      exact step_of_move orderly rfl (Watching.move_of_drop hwatching) rfl rfl

end FleetControl.System
