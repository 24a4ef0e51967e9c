import FleetControl.Proofs.Course
import FleetControl.Simulation.Rehearsal
import FleetControl.Simulation.SimulatedFleet

/-!
# Cues

What can happen to a fleet in simulated surroundings, one cue after the other and in any order: a
promise that is due is kept, the controller takes a step of its own, time passes, or a fault is
brought upon the members. A rehearsal takes its cues in an order that it chooses. Here every order
is allowed.
-/

namespace FleetControl

/-- A start takes this event by itself, and not as an answer of its surroundings. -/
def StartEvent.isOwn : StartEvent → Bool
  | .settled => true
  | .attempt _ => true
  | .rested _ => true
  | .abandoned => true
  | .outside _ => false
  | .launched _ => false
  | .ready .. => false
  | .answered .. => false
  | .ended _ => false

/-- A running fleet takes this event by itself or from a caller, and not as an answer of its
surroundings. -/
def Event.isOwn : Event → Bool
  | .call _ => true
  | .advance _ => true
  | .abandoned _ => true
  | .tick => true
  | .survey => true
  | .join => true
  | .quit => true
  | .probe _ => true
  | .drop _ => true
  | .outside _ => false
  | .launched .. => false
  | .ready .. => false
  | .ended .. => false
  | .answered .. => false

namespace Simulation

/-- A fault that is brought upon the members of a simulated fleet. -/
inductive Fault where
  | unreachable (slot : Nat) (unreachable : Bool)
  | unwinding (slot : Nat)
  | failing (slot : Nat)
  | hanging (slot : Nat)
  /-- So many of the next reports name no leader. -/
  | leaderless (reports : Nat)

/-- Brings a fault upon a simulated fleet. -/
def SimulatedFleet.suffer (sim : SimulatedFleet) : Fault → SimulatedFleet
  | .unreachable slot unreachable => sim.setUnreachable slot unreachable
  | .unwinding slot => { sim with unwinding := sim.unwinding.insert slot }
  | .failing slot => { sim with failing := sim.failing.insert slot }
  | .hanging slot => { sim with hanging := sim.hanging.insert slot }
  | .leaderless reports => { sim with leaderless := reports }

/-- What happens to a simulated fleet and its controller. -/
inductive Cue where
  /-- The promise at this place of the pending ones is kept. -/
  | keep (place : Nat)
  /-- The start of the fleet goes on by itself. -/
  | start (event : StartEvent)
  /-- The fleet runs, now that its start is complete. -/
  | enter
  /-- A call is made, or a task of the running fleet goes on by itself. -/
  | run (event : Event)
  /-- Something that neither the controller nor the members do. -/
  | outside (event : Outside)
  | fault (fault : Fault)
  /-- The time is noted at which calls were finished. -/
  | note

namespace Timeline

/-- Takes a cue, if it fits. Commands are carried out at once, and none is left. -/
def play? (line : Timeline SimulatedFleet) (cue : Cue) :
    Option (Timeline SimulatedFleet × List Command) :=
  (match cue with
    | .keep place => do
        let owed ← line.pending[place]?
        if owed.due ≤ line.now then
          some ({ line with pending := line.pending.eraseIdx place }.keep owed.promise)
        else none
    | .start event => if event.isOwn then line.onStart? event else none
    | .enter => some line.enterRunning
    | .run event => if event.isOwn then line.onRun? event else none
    | .outside event => some (line.outside event)
    | .fault fault => some { line with world := line.world.suffer fault }
    | .note => some line.noteFinished).map (·, [])

/-- A cue leads from one line to another. -/
def Cued (line next : Timeline SimulatedFleet) : Prop := ∃ cue, line.play? cue = some (next, [])

section Rehearsed

variable {line next : Timeline SimulatedFleet}

theorem exists_of_takeDue {now : Nanos} {select : Promise SimulatedFleet → Bool}
    {pending rest : List (Pending SimulatedFleet)} {promise : Promise SimulatedFleet}
    (htake : takeDue now select pending = some (promise, rest)) :
    ∃ place due, pending[place]? = some ⟨due, promise⟩ ∧ due ≤ now ∧
      rest = pending.eraseIdx place := by
  induction pending generalizing rest with
  | nil => simp [takeDue] at htake
  | cons owed pending ih =>
      rw [takeDue] at htake
      split at htake
      next hdue =>
        obtain ⟨rfl, rfl⟩ := Prod.mk.inj (Option.some.inj htake)
        rw [Bool.and_eq_true, decide_eq_true_eq] at hdue
        exact ⟨0, owed.due, rfl, hdue.1, rfl⟩
      next =>
        simp only [Option.map_eq_some_iff, Prod.exists, Prod.mk.injEq] at htake
        obtain ⟨_, others, hlater, rfl, rfl⟩ := htake
        obtain ⟨place, due, howed, hdue, rfl⟩ := ih hlater
        exact ⟨place + 1, due, howed, hdue, rfl⟩

namespace Cued

theorem of_keepDue? {select : Promise SimulatedFleet → Bool}
    (hkeep : line.keepDue? select = some next) : Cued line next := by
  simp only [keepDue?, Option.map_eq_some_iff, Prod.exists] at hkeep
  obtain ⟨promise, rest, htake, rfl⟩ := hkeep
  obtain ⟨place, due, howed, hdue, rfl⟩ := exists_of_takeDue htake
  exact ⟨.keep place, by simp [play?, howed, hdue]⟩

theorem of_onStart? {event : StartEvent} (hstart : line.onStart? event = some next)
    (hown : event.isOwn = true) : Cued line next :=
  ⟨.start event, by simp [play?, hown, hstart]⟩

theorem of_onRun? {event : Event} (hrun : line.onRun? event = some next)
    (hown : event.isOwn = true) : Cued line next :=
  ⟨.run event, by simp [play?, hown, hrun]⟩

theorem of_startStep? (hstep : line.startStep? = some next) : Cued line next := by
  simp only [startStep?, Option.or_eq_some_iff] at hstep
  rcases hstep with habandoned | ⟨-, hsettled | ⟨-, hsearch⟩⟩
  · exact of_onStart? habandoned rfl
  · exact of_onStart? hsettled rfl
  · obtain ⟨slot, -, hsearch⟩ := List.exists_of_findSome?_eq_some hsearch
    rcases Option.or_eq_some_iff.mp hsearch with hrested | ⟨-, hattempt⟩
    · exact of_onStart? hrested rfl
    · exact of_onStart? hattempt rfl

theorem of_callStep? (hstep : line.callStep? = some next) : Cued line next := by
  obtain ⟨id, -, hcall⟩ := List.exists_of_findSome?_eq_some hstep
  rcases Option.or_eq_some_iff.mp hcall with hadvance | ⟨-, habandoned⟩
  · exact of_onRun? hadvance rfl
  · exact of_onRun? habandoned rfl

theorem of_monitorStep? (hstep : line.monitorStep? = some next) : Cued line next := by
  simp only [monitorStep?, Option.or_eq_some_iff] at hstep
  rcases hstep with hquit | ⟨-, hsurvey | ⟨-, hjoin | ⟨-, htick⟩⟩⟩
  · exact of_onRun? hquit rfl
  · exact of_onRun? hsurvey rfl
  · exact of_onRun? hjoin rfl
  · exact of_onRun? htick rfl

theorem of_probeStep? {slot : Nat} (hstep : line.probeStep? slot = some next) :
    Cued line next := by
  simp only [probeStep?, Option.or_eq_some_iff] at hstep
  rcases hstep with hdrop | ⟨-, hprobe | ⟨-, hkeep⟩⟩
  · exact of_onRun? hdrop rfl
  · exact of_onRun? hprobe rfl
  · exact of_keepDue? hkeep

/-- Every step of a rehearsal is one of the cues. -/
theorem of_step? (hstep : line.step? = some next) : Cued line next := by
  simp only [step?, Option.or_eq_some_iff] at hstep
  rcases hstep with hkeep | ⟨-, hstart | ⟨-, hcall | ⟨-, hmonitor | ⟨-, hprobing⟩⟩⟩⟩
  · exact of_keepDue? hkeep
  · exact of_startStep? hstart
  · exact of_callStep? hcall
  · exact of_monitorStep? hmonitor
  · obtain ⟨slot, -, hprobe⟩ := List.exists_of_findSome?_eq_some hprobing
    exact of_probeStep? hprobe

end Cued

/-- So a rehearsal is a course of cues, however long it goes on. -/
theorem exists_course_of_advance (goal : Timeline SimulatedFleet → Bool) (limit : Nanos)
    (fuel : Nat) (line : Timeline SimulatedFleet) :
    ∃ moments, Course play? line moments (line.advance goal limit fuel) := by
  have hpass : ∀ (line : Timeline SimulatedFleet) instant,
      line.play? (.outside (.time { line.fleet.clock with instant })) =
        some (line.passTo instant, []) := fun _ _ => rfl
  induction fuel generalizing line with
  | zero => exact ⟨[], .start⟩
  | succ fuel ih =>
      rw [advance]
      split
      next => exact ⟨[], .start⟩
      next =>
        split
        next next hstep =>
          obtain ⟨cue, hplay⟩ := Cued.of_step? hstep
          have hnoted : next.play? .note = some (next.noteFinished, []) := rfl
          obtain ⟨moments, hrest⟩ := ih next.noteFinished
          exact ⟨_, (Course.single hplay).append ((Course.single hnoted).append hrest)⟩
        next =>
          split
          next due _ =>
            split
            next => exact ⟨_, .single (hpass line limit)⟩
            next =>
              obtain ⟨moments, hrest⟩ := ih (line.passTo due)
              exact ⟨_, (Course.single (hpass line due)).append hrest⟩
          next => exact ⟨_, .single (hpass line limit)⟩

/-- The rehearsal of a start included. -/
theorem exists_course_of_rehearse {world : SimulatedFleet} {settings : FleetSettings}
    {token : String} {files : Files} {cancelAt : Option Nanos}
    (hrehearse : rehearse SimulatedFleet.surroundings world settings token files cancelAt =
      .begun next) :
    ∃ first moments, opening SimulatedFleet.surroundings world settings token files cancelAt =
      .begun first ∧ Course play? first moments next := by
  unfold rehearse at hrehearse
  split at hrehearse
  next => simp at hrehearse
  next first hopening =>
    obtain rfl := Opening.begun.inj hrehearse
    obtain ⟨moments, hcourse⟩ := exists_course_of_advance startIsOver patience stepLimit first
    have hentered : ∀ line : Timeline SimulatedFleet,
        line.play? .enter = some (line.enterRunning, []) := fun _ => rfl
    exact ⟨first, _, hopening, .next hcourse (hentered _)⟩

end Rehearsed

end Timeline

end Simulation

end FleetControl
