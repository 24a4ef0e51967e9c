import FleetControl.Proofs.Fleet.Sequences
import FleetControl.Proofs.Simulation.Calls
import FleetControl.Proofs.Simulation.Muster

/-!
# The counter of open sequences

A simulated fleet counts the starts and teardowns that are open. Every start that is complete and
every teardown is counted once when it begins and once when it is complete, and so the counter shows
what is open, and never falls below what it began with. A start that is given up because of the root
signal is never complete: from then on the counter shows one sequence more than there is.
-/

namespace FleetControl

open EngineNote

namespace Simulation

/-- How many starts begin when a promise is kept. -/
def Promise.handouts {σ : Type} : Promise σ → Nat
  | .launched _ outcome => handedOut outcome
  | _ => 0

/-- The slot whose launch is answered when a promise is kept. -/
def Promise.answers {σ : Type} : Promise σ → Multiset Nat
  | .launched slot _ => {slot}
  | _ => 0

theorem Promise.handouts_le {σ : Type} (promise : Promise σ) :
    promise.handouts ≤ promise.answers.card := by
  cases promise with
  | launched slot outcome => cases outcome <;> simp [handouts, handedOut, answers]
  | fireRoot | ready | ended | answer | call => simp [handouts]

/-- How many starts are given up with a cue. -/
def Cue.abandonments : Cue → Nat
  | .run event => event.abandonments
  | _ => 0

namespace Stage

/-- How many sequences the controller has open. -/
def sequences : Stage → Nat
  | .starting start => start.sequences
  | .running system => system.sequences

/-- The slots for which the controller waits for the engine. -/
def launching : Stage → Multiset Nat
  | .starting start => start.launching
  | .running system => system.launching

/-- The start has failed or is about to. -/
def isDown : Stage → Bool
  | .starting start => start.phase.isDown
  | .running _ => false

/-- The controller was started with these settings, and has come here after some notes. -/
def Kept (settings : FleetSettings) (notes : List EngineNote) : Stage → Prop
  | .starting start => start.Begun settings notes
  | .running system => system.Sound notes

end Stage

namespace SimulatedFleet

theorem inFlight_respond (sim : SimulatedFleet) (slot : Nat) :
    (respond slot sim).1.inFlight = sim.inFlight ∧
      (respond slot sim).1.maxInFlight = sim.maxInFlight := by
  unfold respond
  split
  next => exact ⟨rfl, rfl⟩
  next =>
    split
    next => exact ⟨rfl, rfl⟩
    next =>
      dsimp only
      split <;> exact ⟨rfl, rfl⟩

theorem inFlight_suffer (sim : SimulatedFleet) (fault : Fault) :
    (sim.suffer fault).inFlight = sim.inFlight ∧
      (sim.suffer fault).maxInFlight = sim.maxInFlight := by
  cases fault <;> exact ⟨rfl, rfl⟩

end SimulatedFleet

namespace Timeline

variable {settings : FleetSettings} {notes : List EngineNote}
  {line next last : Timeline SimulatedFleet} {commands : List Command}

/-- How many starts have begun of which the controller has not heard yet. -/
def handouts (line : Timeline SimulatedFleet) : Nat :=
  (line.pending.map (·.promise.handouts)).sum

/-- The slots whose launches are still to be answered. -/
def answers (line : Timeline SimulatedFleet) : Multiset Nat :=
  (line.pending.map (·.promise.answers)).sum

/-- How many starts and teardowns are open. -/
def sequences (line : Timeline SimulatedFleet) : Nat := line.stage.sequences + line.handouts

theorem handouts_le (line : Timeline SimulatedFleet) : line.handouts ≤ line.answers.card := by
  unfold handouts answers
  induction line.pending with
  | nil => simp
  | cons owed rest ih =>
      rw [List.map_cons, List.sum_cons, List.map_cons, List.sum_cons, Multiset.card_add]
      exact Nat.add_le_add owed.promise.handouts_le ih

/-! ### What commands do to the counter -/

/-- What the commands of one step do to the counter of a simulated fleet. -/
structure Counted (line : Timeline SimulatedFleet) (commands : List Command)
    (next : Timeline SimulatedFleet) : Prop where
  inFlight : next.world.inFlight + line.handouts =
    line.world.inFlight + next.handouts + hardStops commands
  owed : next.answers = line.answers + launchSlots commands
  grows : line.world.inFlight ≤ next.world.inFlight
  most : next.world.maxInFlight ≤ max line.world.maxInFlight next.world.inFlight

namespace Counted

theorem refl (line : Timeline SimulatedFleet) : Counted line [] line where
  inFlight := by simp
  owed := (add_zero _).symm
  grows := le_refl _
  most := le_max_left ..

theorem cons {middle : Timeline SimulatedFleet} {command : Command}
    (hleft : Counted line [command] middle) (hright : Counted middle commands next) :
    Counted line (command :: commands) next where
  inFlight := by
    have hfirst := hleft.inFlight
    have hrest := hright.inFlight
    rw [hardStops_cons]
    omega
  owed := by
    rw [hright.owed, hleft.owed, add_assoc]
    simp [launchSlots]
  grows := hleft.grows.trans hright.grows
  most := by
    have hfirst := hleft.most
    have hrest := hright.most
    have hgrows := hright.grows
    omega

/-- A promise is added that has nothing to do with a launch. -/
theorem of_pending {command : Command} {owed : List (Pending SimulatedFleet)}
    (hpending : next.pending = line.pending ++ owed)
    (howed : ∀ pending ∈ owed, pending.promise.answers = 0)
    (hstops : hardStops [command] = 0) (hlaunches : launchSlots [command] = 0)
    (hworld : next.world.inFlight = line.world.inFlight)
    (hmost : next.world.maxInFlight = line.world.maxInFlight) :
    Counted line [command] next := by
  have hanswers : next.answers = line.answers := by
    have hnone : (owed.map (·.promise.answers)).sum = 0 := by
      apply List.sum_eq_zero
      intro slots hslots
      obtain ⟨pending, hmem, rfl⟩ := List.mem_map.mp hslots
      exact howed pending hmem
    rw [answers, hpending, List.map_append, List.sum_append, hnone, add_zero]
    rfl
  have hhandouts : next.handouts = line.handouts := by
    have hnone : (owed.map (·.promise.handouts)).sum = 0 := by
      apply List.sum_eq_zero
      intro count hcount
      obtain ⟨pending, hmem, rfl⟩ := List.mem_map.mp hcount
      have hle := pending.promise.handouts_le
      rw [howed pending hmem] at hle
      exact Nat.le_zero.mp hle
    rw [handouts, hpending, List.map_append, List.sum_append, hnone, add_zero]
    rfl
  refine ⟨?_, ?_, hworld.ge, hmost.le.trans (le_max_left ..)⟩
  · rw [hworld, hhandouts, hstops]
    simp
  · rw [hanswers, hlaunches, add_zero]

theorem launch (line : Timeline SimulatedFleet)
    (haround : line.around = SimulatedFleet.surroundings) (slot : Nat) (config : MemberConfig) :
    Counted line [.launch slot config] (line.obey (.launch slot config)) := by
  have hanswers : ∀ (world : SimulatedFleet) (outcome : Except Error MemberConfig),
      answers { line with world, pending := ⟨line.now, .launched slot outcome⟩ :: line.pending } =
        line.answers + launchSlots [.launch slot config] := by
    intro world outcome
    rw [answers, List.map_cons, List.sum_cons, add_comm]
    rfl
  rw [obey_launch line haround]
  by_cases hfails : slot ∈ line.world.failing
  · simp only [SimulatedFleet.launch, if_pos hfails]
    refine ⟨?_, hanswers .., le_refl _, le_max_left ..⟩
    simp [handouts, Promise.handouts, handedOut, hardStops]
  · simp only [SimulatedFleet.launch, if_neg hfails]
    refine ⟨?_, hanswers .., ?_, ?_⟩
    · simp [handouts, Promise.handouts, handedOut, hardStops, SimulatedFleet.enter]
      omega
    · simp [SimulatedFleet.enter]
    · simp [SimulatedFleet.enter]

theorem obey (line : Timeline SimulatedFleet)
    (haround : line.around = SimulatedFleet.surroundings) (command : Command) :
    Counted line [command] (line.obey command) := by
  obtain ⟨around, world, stage, tickInterval, pending, finishTimes⟩ := line
  obtain rfl : around = SimulatedFleet.surroundings := haround
  cases command with
  | launch slot config => exact launch _ rfl slot config
  | awaitReady slot handle =>
      simp only [Timeline.obey, SimulatedFleet.surroundings, SimulatedFleet.ready]
      by_cases hhanging : slot ∈ world.hanging
      · rw [if_pos hhanging]
        exact of_pending (List.append_nil _).symm (by simp) rfl rfl rfl rfl
      · rw [if_neg hhanging]
        exact of_pending rfl (by simp [Promise.answers]) rfl rfl rfl rfl
  | hardStop slot handle =>
      refine ⟨?_, (add_zero _).symm, ?_, le_refl _⟩
      · exact add_right_comm world.inFlight 1 _
      · exact Int.le_add_one (le_refl _)
  | close slot handle =>
      exact of_pending (List.append_nil _).symm (by simp) rfl rfl rfl rfl
  | awaitEnd slot handle => exact of_pending rfl (by simp [Promise.answers]) rfl rfl rfl rfl
  | query slot config => exact of_pending rfl (by simp [Promise.answers]) rfl rfl rfl rfl
  | probe slot config => exact of_pending rfl (by simp [Promise.answers]) rfl rfl rfl rfl

theorem foldl (commands : List Command) {line : Timeline SimulatedFleet}
    (haround : line.around = SimulatedFleet.surroundings) :
    Counted line commands (commands.foldl Timeline.obey line) := by
  induction commands generalizing line with
  | nil => exact refl line
  | cons command rest ih =>
      have hobeyed := Obeyed.obey line haround command
      exact (obey line haround command).cons (ih (hobeyed.around.trans haround))

end Counted

/-! ### What a cue does to the counter -/

/-- A call that waits for the engine is found by its slot. -/
theorem exists_launcher {system : System} (hstage : line.stage = .running system)
    (orderly : system.Orderly) {slot : Nat} (hslot : slot ∈ system.launching) :
    ∃ id call, line.launcher? slot = some id ∧ system.calling.call? id = some call ∧
      call.phase = .launching ∧ Calling.slotOf call.operation = slot := by
  obtain ⟨waiting, hmem, hphase, hoperation⟩ := System.exists_of_launching hslot
  cases hlauncher : line.launcher? slot with
  | none =>
      simp only [launcher?, hstage, Option.map_eq_none_iff, List.find?_eq_none] at hlauncher
      exact absurd (by simp [hphase, hoperation]) (hlauncher waiting hmem)
  | some id =>
      simp only [launcher?, hstage, Option.map_eq_some_iff] at hlauncher
      obtain ⟨call, hfound, rfl⟩ := hlauncher
      have hwaits := List.find?_some hfound
      split at hwaits
      next hlaunching =>
        have hcall : call ∈ system.calling.calls := List.mem_of_find?_eq_some hfound
        exact ⟨call.id, call, rfl, orderly.call?_of_mem hcall, hlaunching,
          of_decide_eq_true hwaits⟩
      next => simp at hwaits

/-- What is pending is one promise and all others. -/
theorem pending_of_place {place : Nat} {owed : Pending SimulatedFleet}
    (howed : line.pending[place]? = some owed) :
    line.handouts = owed.promise.handouts +
        handouts { line with pending := line.pending.eraseIdx place } ∧
      line.answers = owed.promise.answers +
        answers { line with pending := line.pending.eraseIdx place } := by
  obtain ⟨hplace, hvalue⟩ := List.getElem?_eq_some_iff.mp howed
  have hperm := List.getElem_cons_eraseIdx_perm hplace
  rw [hvalue] at hperm
  constructor
  · exact (hperm.map fun owed => owed.promise.handouts).sum_eq.symm
  · exact (hperm.map fun owed => owed.promise.answers).sum_eq.symm

/-- Between two lines the counter has followed the sequences, but for the starts that were given up,
after so many handed out processes and answered launches were taken out of the promises. -/
structure Passes (line next : Timeline SimulatedFleet) (handouts abandonments : Nat)
    (answered : Multiset Nat) : Prop where
  inFlight : next.world.inFlight + line.sequences + handouts =
    line.world.inFlight + next.sequences + abandonments
  owed : next.answers + line.stage.launching =
    line.answers + next.stage.launching + answered
  most : next.world.maxInFlight ≤ max line.world.maxInFlight next.world.inFlight

namespace Passes

variable {handed abandonments : Nat} {answered : Multiset Nat}

theorem refl (line : Timeline SimulatedFleet) : Passes line line 0 0 0 where
  inFlight := rfl
  owed := (add_zero _).symm
  most := le_max_left ..

/-- The simulated fleet takes note of what is complete, and then of the commands. -/
theorem follow (haround : line.around = SimulatedFleet.surroundings) {world : SimulatedFleet}
    {stage : Stage} {completions : Nat}
    (hworld : world.inFlight = line.world.inFlight - completions)
    (hmost : world.maxInFlight = line.world.maxInFlight)
    (hsequences : stage.sequences + (completions + abandonments) =
      line.stage.sequences + (handed + hardStops commands))
    (hlaunching : stage.launching + answered = line.stage.launching + launchSlots commands) :
    Passes line ({ line with world }.follow stage commands) handed abandonments answered := by
  have counted : Counted { line with world, stage } commands
      ({ line with world }.follow stage commands) := .foldl commands haround
  have hstage : ({ line with world }.follow stage commands).stage = stage := by
    rw [stage_follow]
    exact haround
  have hbefore : handouts { line with world, stage } = line.handouts := rfl
  refine ⟨?_, ?_, ?_⟩
  · have hcounted := counted.inFlight
    rw [hbefore, hworld] at hcounted
    rw [sequences, sequences, hstage]
    omega
  · have hanswers := counted.owed
    rw [show answers { line with world, stage } = line.answers from rfl] at hanswers
    rw [hstage, hanswers, add_assoc, add_comm (launchSlots commands), ← hlaunching, add_assoc]
  · exact hmost ▸ counted.most

/-- The start takes an event. -/
theorem onStart? (haround : line.around = SimulatedFleet.surroundings) {start : Bootstrap}
    (hstage : line.stage = .starting start) {event : StartEvent}
    {change : SimulatedFleet → SimulatedFleet}
    (hchange : (change line.world).inFlight = line.world.inFlight - event.completions)
    (hmost : (change line.world).maxInFlight = line.world.maxInFlight)
    (hnext : line.onStart? event change = some next) (hup : next.stage.isDown = false) :
    Passes line next event.handouts 0 (start.answered event) := by
  simp only [Timeline.onStart?, hstage, Option.map_eq_some_iff, Prod.exists] at hnext
  obtain ⟨after, commands, hstep, rfl⟩ := hnext
  rw [stage_follow (by exact haround)] at hup
  obtain ⟨-, balances⟩ := (Bootstrap.stride_of_step? hstep).balances hup
  apply follow haround hchange hmost
  · rw [hstage, balances.hardStops]
    exact balances.sequences
  · rw [hstage]
    exact balances.launching

/-- The running fleet takes an event. -/
theorem onRun? (haround : line.around = SimulatedFleet.surroundings) {system : System}
    (hstage : line.stage = .running system) (orderly : system.Orderly) {event : Event}
    {change : SimulatedFleet → SimulatedFleet}
    (hchange : (change line.world).inFlight = line.world.inFlight - event.completions)
    (hmost : (change line.world).maxInFlight = line.world.maxInFlight)
    (hnext : line.onRun? event change = some next) :
    Passes line next event.handouts event.abandonments (system.calling.answered event) := by
  simp only [Timeline.onRun?, hstage, Option.map_eq_some_iff, Prod.exists] at hnext
  obtain ⟨after, commands, hstep, rfl⟩ := hnext
  have balances := System.balances_of_step? orderly hstep
  apply follow haround hchange hmost
  · rw [hstage]
    exact balances.sequences
  · rw [hstage]
    exact balances.launching

/-- The controller goes on without anything to begin or to complete. -/
theorem of_stage {stage : Stage} (hsequences : stage.sequences = line.stage.sequences)
    (hlaunching : stage.launching = line.stage.launching) :
    Passes line { line with stage } 0 0 0 := by
  refine ⟨?_, ?_, le_max_left ..⟩
  · rw [sequences, sequences, hsequences]
    rfl
  · rw [← hlaunching, add_zero]
    rfl

/-- Nothing that comes from outside begins or completes a sequence. -/
theorem outside (line : Timeline SimulatedFleet) (event : Outside) :
    Passes line (line.outside event) 0 0 0 := by
  unfold Timeline.outside
  cases hstage : line.stage with
  | starting start =>
      dsimp only
      split
      next hstep =>
        simp only [Bootstrap.step?, Option.map_eq_some_iff, Prod.mk.injEq] at hstep
        obtain ⟨fleet, -, rfl, -⟩ := hstep
        exact of_stage (hstage ▸ rfl) (hstage ▸ rfl)
      next => exact of_stage (hstage ▸ rfl) (hstage ▸ rfl)
  | running system =>
      dsimp only
      split
      next hstep =>
        simp only [System.step?, Option.map_eq_some_iff, Prod.mk.injEq] at hstep
        obtain ⟨fleet, -, rfl, -⟩ := hstep
        exact of_stage (hstage ▸ rfl) (hstage ▸ rfl)
      next => exact of_stage (hstage ▸ rfl) (hstage ▸ rfl)

/-- A promise is taken out of those that are pending before it is kept. -/
theorem of_place {place : Nat} {owed : Pending SimulatedFleet}
    (howed : line.pending[place]? = some owed)
    (passes : Passes { line with pending := line.pending.eraseIdx place } next
      owed.promise.handouts abandonments owed.promise.answers) :
    Passes line next 0 abandonments 0 := by
  obtain ⟨hhandouts, hanswers⟩ := pending_of_place howed
  refine ⟨?_, ?_, passes.most⟩
  · have hcount := passes.inFlight
    simp only [sequences] at hcount ⊢
    omega
  · rw [add_zero, passes.owed, hanswers]
    abel

/-- The engine's answer goes to whoever waits for it. -/
theorem launched (haround : line.around = SimulatedFleet.surroundings)
    (horderly : ∀ system, line.stage = .running system → system.Orderly) {slot : Nat}
    {outcome : Except Error MemberConfig} (hslot : slot ∈ line.stage.launching)
    (hup : (line.keep (.launched slot outcome)).stage.isDown = false) :
    Passes line (line.keep (.launched slot outcome)) (handedOut outcome) 0 {slot} := by
  cases hstage : line.stage with
  | starting start =>
      rw [hstage] at hslot
      obtain ⟨hlaunching, htakes⟩ := Bootstrap.takes_launched hslot outcome
      obtain ⟨next, hnext⟩ : ∃ next, line.onStart? (.launched outcome) = some next :=
        Option.isSome_iff_exists.mp (by simpa [Timeline.onStart?, hstage] using htakes)
      have hkeep : line.keep (.launched slot outcome) = next := by
        simp [Timeline.keep, hnext]
      rw [hkeep] at hup ⊢
      have passes := onStart? haround hstage (by simp [StartEvent.completions]) rfl hnext hup
      rwa [Bootstrap.answered, hlaunching] at passes
  | running system =>
      rw [hstage] at hslot
      have orderly := horderly system hstage
      obtain ⟨id, call, hlauncher, hcall, hphase, hoperation⟩ :=
        exists_launcher hstage orderly hslot
      obtain ⟨next, hnext⟩ : ∃ next, line.onRun? (.launched id outcome) = some next :=
        Option.isSome_iff_exists.mp
          (by simpa [Timeline.onRun?, hstage] using System.takes_launched hcall hphase outcome)
      have hkeep : line.keep (.launched slot outcome) = next := by
        simp [Timeline.keep, Timeline.onStart?, hstage, hlauncher, hnext]
      rw [hkeep]
      have passes := onRun? haround hstage orderly (by simp [Event.completions]) rfl hnext
      have hanswered : system.calling.answered (.launched id outcome) = {slot} := by
        simp [Calling.answered, hcall, hoperation]
      rwa [hanswered] at passes

/-- What nobody waits for is without effect. -/
theorem getD {found : Option (Timeline SimulatedFleet)}
    (hfound : ∀ next, found = some next → next.stage.isDown = false → Passes line next 0 0 0)
    (hup : (found.getD line).stage.isDown = false) : Passes line (found.getD line) 0 0 0 := by
  cases found with
  | none => exact refl line
  | some next => exact hfound next rfl hup

/-- What completes a sequence goes to whoever waits for it, or is without effect. -/
theorem completed (haround : line.around = SimulatedFleet.surroundings)
    (horderly : ∀ system, line.stage = .running system → system.Orderly) {event : StartEvent}
    {waiter : Option Nat} {toCall : Nat → Event} {change : SimulatedFleet → SimulatedFleet}
    (hchange : (change line.world).inFlight = line.world.inFlight - 1)
    (hmost : (change line.world).maxInFlight = line.world.maxInFlight)
    (hevent : event.completions = 1 ∧ event.handouts = 0 ∧
      ∀ start : Bootstrap, start.answered event = 0)
    (hcall : ∀ id, (toCall id).completions = 1 ∧ (toCall id).handouts = 0 ∧
      (toCall id).abandonments = 0 ∧ ∀ calling : Calling, calling.answered (toCall id) = 0)
    (hup : (((line.onStart? event change).or
      (waiter.bind fun id => line.onRun? (toCall id) change)).getD line).stage.isDown = false) :
    Passes line (((line.onStart? event change).or
      (waiter.bind fun id => line.onRun? (toCall id) change)).getD line) 0 0 0 := by
  refine getD (fun next hfound hup => ?_) hup
  rcases Option.or_eq_some_iff.mp hfound with hnext | ⟨-, hnext⟩
  · cases hstage : line.stage with
    | starting start =>
        obtain ⟨hone, hnone, hsilent⟩ := hevent
        have passes := onStart? haround hstage (by rw [hchange, hone]; rfl) hmost hnext hup
        rwa [hnone, hsilent] at passes
    | running system => simp [Timeline.onStart?, hstage] at hnext
  · obtain ⟨id, -, hnext⟩ := Option.bind_eq_some_iff.mp hnext
    cases hstage : line.stage with
    | starting start => simp [Timeline.onRun?, hstage] at hnext
    | running system =>
        obtain ⟨hone, hnone, hkept, hsilent⟩ := hcall id
        have passes := onRun? haround hstage (horderly system hstage)
          (by rw [hchange, hone]; rfl) hmost hnext
        rwa [hnone, hkept, hsilent] at passes

/-- A promise is kept. -/
theorem keep {promise : Promise SimulatedFleet}
    (haround : line.around = SimulatedFleet.surroundings)
    (horderly : ∀ system, line.stage = .running system → system.Orderly)
    (hlawful : promise.Lawful notes)
    (hwaits : ∀ slot ∈ promise.answers, slot ∈ line.stage.launching)
    (hup : (line.keep promise).stage.isDown = false) :
    Passes line (line.keep promise) promise.handouts 0 promise.answers := by
  cases promise with
  | fireRoot => exact outside line .fireRoot
  | launched slot outcome =>
      exact launched haround horderly (hwaits slot (Multiset.mem_singleton_self slot)) hup
  | ready slot handle outcome =>
      unfold Timeline.keep at hup ⊢
      exact completed haround horderly (by rw [haround]; rfl) (by rw [haround]; rfl)
        ⟨rfl, rfl, fun _ => rfl⟩ (fun _ => ⟨rfl, rfl, rfl, fun _ => rfl⟩) hup
  | ended slot handle =>
      unfold Timeline.keep at hup ⊢
      exact completed haround horderly (by rw [haround]; rfl) (by rw [haround]; rfl)
        ⟨rfl, rfl, fun _ => rfl⟩ (fun _ => ⟨rfl, rfl, rfl, fun _ => rfl⟩) hup
  | answer slot full resolve =>
      obtain rfl : resolve = SimulatedFleet.respond slot := hlawful
      obtain ⟨hworld, hmost⟩ := line.world.inFlight_respond slot
      have hsame : (SimulatedFleet.respond slot line.world).1.inFlight =
          line.world.inFlight - (0 : Nat) := by rw [hworld, Nat.cast_zero, sub_zero]
      cases full with
      | false =>
          change Passes line ((line.onStart? (.answered slot _)
            fun _ => (SimulatedFleet.respond slot line.world).1).getD line) 0 0 0
          refine getD (fun next hnext hup => ?_) hup
          cases hstage : line.stage with
          | starting start => exact onStart? haround hstage hsame hmost hnext hup
          | running system => simp [Timeline.onStart?, hstage] at hnext
      | true =>
          change Passes line ((line.onRun? (.answered slot _)
            fun _ => (SimulatedFleet.respond slot line.world).1).getD line) 0 0 0
          refine getD (fun next hnext _ => ?_) hup
          cases hstage : line.stage with
          | starting start => simp [Timeline.onRun?, hstage] at hnext
          | running system => exact onRun? haround hstage (horderly system hstage) hsame hmost hnext
  | call operation => exact hlawful.elim

/-- A cue adds to the counter what it gives up. -/
theorem play (haround : line.around = SimulatedFleet.surroundings)
    (horderly : ∀ system, line.stage = .running system → system.Orderly)
    (hlawful : ∀ owed ∈ line.pending, owed.promise.Lawful notes)
    (howed : line.answers = line.stage.launching) {cue : Cue}
    (hplay : line.play? cue = some (next, commands)) (hup : next.stage.isDown = false) :
    Passes line next 0 cue.abandonments 0 := by
  simp only [play?, Option.map_eq_some_iff, Prod.mk.injEq] at hplay
  obtain ⟨after, hplay, rfl, -⟩ := hplay
  cases cue with
  | keep place =>
      simp only [Option.bind_eq_bind, Option.bind_eq_some_iff] at hplay
      obtain ⟨owed, hplace, hplay⟩ := hplay
      obtain rfl := Option.some.inj (Option.ite_none_right_eq_some.mp hplay).2
      -- Whatever launch is answered is waited for, since what is owed is what is waited for.
      apply of_place hplace
      refine keep haround horderly (hlawful owed (List.mem_of_getElem? hplace)) ?_ hup
      intro slot hslot
      change slot ∈ line.stage.launching
      rw [← howed, (pending_of_place hplace).2]
      exact Multiset.mem_add.mpr (.inl hslot)
  | start event =>
      obtain ⟨hown, hplay⟩ := Option.ite_none_right_eq_some.mp hplay
      cases hstage : line.stage with
      | starting start =>
          have hsilent : event.completions = 0 ∧ event.handouts = 0 ∧ start.answered event = 0 := by
            cases event with
            | settled | attempt | rested | abandoned => exact ⟨rfl, rfl, rfl⟩
            | outside | launched | ready | answered | ended => simp [StartEvent.isOwn] at hown
          have passes := onStart? haround hstage (by simp [hsilent]) (by rfl) hplay hup
          rwa [hsilent.2.1, hsilent.2.2] at passes
      | running system => simp [Timeline.onStart?, hstage] at hplay
  | enter =>
      obtain rfl := Option.some.inj hplay
      unfold enterRunning
      cases hstage : line.stage with
      | starting start =>
          dsimp only
          split
          next hphase =>
            have hup : start.phase.isUp = true := by rw [hphase]; rfl
            obtain ⟨hsequences, hlaunching⟩ := StartPhase.sequences_of_isUp hup start.handles
            exact of_stage (hstage ▸ hsequences.symm) (hstage ▸ hlaunching.symm)
          next => exact refl line
      | running system => exact refl line
  | run event =>
      obtain ⟨hown, hplay⟩ := Option.ite_none_right_eq_some.mp hplay
      cases hstage : line.stage with
      | starting start => simp [Timeline.onRun?, hstage] at hplay
      | running system =>
          have hsilent : event.completions = 0 ∧ event.handouts = 0 ∧
              system.calling.answered event = 0 := by
            cases event with
            | call | advance | abandoned | tick | survey | join | quit | probe | drop =>
                exact ⟨rfl, rfl, rfl⟩
            | outside | launched | ready | ended | answered => simp [Event.isOwn] at hown
          have passes :=
            onRun? haround hstage (horderly system hstage) (by simp [hsilent]) (by rfl) hplay
          rwa [hsilent.2.1, hsilent.2.2] at passes
  | outside event =>
      obtain rfl := Option.some.inj hplay
      exact outside line event
  | fault fault =>
      obtain rfl := Option.some.inj hplay
      obtain ⟨hworld, hmost⟩ := line.world.inFlight_suffer fault
      refine ⟨?_, (add_zero _).symm, hmost.le.trans (le_max_left ..)⟩
      rw [hworld]
      rfl
  | note =>
      obtain rfl := Option.some.inj hplay
      unfold noteFinished
      split
      next => exact refl line
      next => exact ⟨rfl, (add_zero _).symm, le_max_left ..⟩

end Passes

/-! ### What a whole history does to the counter -/

/-- A simulated fleet, as large as one likes, whose controller was started with these settings. -/
structure Keeps (settings : FleetSettings) (notes : List EngineNote)
    (line : Timeline SimulatedFleet) : Prop where
  around : line.around = SimulatedFleet.surroundings
  lawful : ∀ owed ∈ line.pending, owed.promise.Lawful notes
  stage : line.stage.Kept settings notes

namespace Keeps

theorem sound (keeps : line.Keeps settings notes) {system : System}
    (hstage : line.stage = .running system) : system.Sound notes := by
  have hkept := keeps.stage
  rwa [hstage] at hkept

theorem follow (keeps : line.Keeps settings notes) {more : List EngineNote}
    {pending : List (Pending SimulatedFleet)} {world : SimulatedFleet} {stage : Stage}
    (hpending : pending ⊆ line.pending) (hnotes : notes ⊆ more)
    (hhanded : ∀ slot handle, .awaitReady slot handle ∈ commands → .handed slot handle ∈ more)
    (hstage : stage.Kept settings more) :
    ({ line with pending, world }.follow stage commands).Keeps settings more := by
  have hobeyed : Obeyed { line with pending, world, stage } commands
      ({ line with pending, world }.follow stage commands) := .foldl commands keeps.around
  refine ⟨hobeyed.around.trans keeps.around, ?_, hobeyed.stage ▸ hstage⟩
  exact hobeyed.lawful more hhanded fun owed howed =>
    (keeps.lawful owed (hpending howed)).mono hnotes

theorem beat (keeps : line.Keeps settings notes) (beat : Beat line next) :
    ∃ more, next.Keeps settings more := by
  have hkept := keeps.stage
  cases beat with
  | still hpending _ _ hnext =>
      subst hnext
      exact ⟨notes, keeps.around, fun owed howed => keeps.lawful owed (hpending howed), hkept⟩
  | start hstage hstep hpending _ hnext =>
      subst hnext
      rw [hstage] at hkept
      have hafter := Bootstrap.Begun.step hkept hstep
      exact ⟨_, keeps.follow hpending (List.subset_append_left ..)
        (fun slot handle => (Bootstrap.stride_of_step? hstep).handed_of_awaitReady hafter.kept)
        hafter⟩
  | enter hstage hphase hpending hnext =>
      subst hnext
      rw [hstage] at hkept
      exact ⟨notes, keeps.around, fun owed howed => keeps.lawful owed (hpending howed),
        (Bootstrap.Begun.kept hkept).sound hphase _⟩
  | @run pending world system after event commands hstage hstep hpending _ hnext =>
      subst hnext
      have sound := keeps.sound hstage
      obtain ⟨-, hstepped⟩ := System.step_of_step? sound.orderly hstep
      have hafter : after.Sound (notes ++ (system.heard event ++ ofCommands commands)) := by
        simpa [System.notes] using sound.course (.single hstep)
      refine ⟨_, keeps.follow hpending (List.subset_append_left ..) (fun slot handle hmem => ?_)
        hafter⟩
      exact List.mem_append_right _ (List.mem_append_left _ (hstepped.handed_of_awaitReady hmem))

end Keeps

/-- A start that has failed, or is about to, never comes to run. -/
theorem Beat.isUp (haround : line.around = SimulatedFleet.surroundings) (beat : Beat line next)
    (hup : next.stage.isDown = false) : line.stage.isDown = false := by
  cases beat with
  | still _ _ _ hnext =>
      subst hnext
      exact hup
  | start hstage hstep _ _ hnext =>
      subst hnext
      rw [stage_follow (by exact haround)] at hup
      rw [hstage]
      exact ((Bootstrap.stride_of_step? hstep).balances hup).1
  | enter hstage hphase =>
      rw [hstage, Stage.isDown, hphase]
      rfl
  | run hstage => rw [hstage, Stage.isDown]

end Timeline

/-- A cue, or the most open sequences are counted anew. -/
inductive Prompt where
  | cue (cue : Cue)
  | recount

/-- How many starts are given up with a prompt. -/
def Prompt.abandonments : Prompt → Nat
  | .cue taken => taken.abandonments
  | .recount => 0

@[simp] theorem Prompt.abandonments_recount : Prompt.recount.abandonments = 0 := rfl

/-- How many starts were given up. -/
def abandonments (history : List (Moment (Timeline SimulatedFleet) Prompt)) : Nat :=
  (history.map (·.event.abandonments)).sum

@[simp] theorem abandonments_nil : abandonments [] = 0 := rfl

@[simp] theorem abandonments_append (early late : List (Moment (Timeline SimulatedFleet) Prompt)) :
    abandonments (early ++ late) = abandonments early + abandonments late := by
  simp [abandonments]

@[simp] theorem abandonments_cons (moment : Moment (Timeline SimulatedFleet) Prompt)
    (late : List (Moment (Timeline SimulatedFleet) Prompt)) :
    abandonments (moment :: late) = moment.event.abandonments + abandonments late := by
  simp [abandonments]

namespace Timeline

variable {settings : FleetSettings} {notes : List EngineNote} {surplus : Int}
  {first line next last : Timeline SimulatedFleet} {commands : List Command}
  {history : List (Moment (Timeline SimulatedFleet) Prompt)}

/-- Follows a prompt, if it fits. -/
def prompt? (line : Timeline SimulatedFleet) :
    Prompt → Option (Timeline SimulatedFleet × List Command)
  | .cue cue => line.play? cue
  | .recount => some ({ line with world := line.world.resetInFlight }, [])

/-- Unless its start has failed the counter of the fleet shows so many sequences more than are
open. -/
structure Counts (settings : FleetSettings) (notes : List EngineNote) (surplus : Int)
    (line : Timeline SimulatedFleet) : Prop where
  keeps : line.Keeps settings notes
  owed : line.stage.isDown = false → line.answers = line.stage.launching
  inFlight : line.stage.isDown = false → line.world.inFlight = surplus + line.sequences

namespace Counts

/-- Before the first launch nothing is open. -/
theorem begin {token : String} {files after : Files} {clock : Clock} {rootFired : Bool}
    {start : Bootstrap} {opening : List Command}
    (hbegin : Bootstrap.begin settings token files clock rootFired = (after, .ok (start, opening)))
    (haround : line.around = SimulatedFleet.surroundings)
    (hworld : line.world.inFlight = surplus)
    (hpending : ∀ owed ∈ line.pending, owed.promise = .fireRoot)
    (hstage : line.stage = .starting start) :
    (line.follow (.starting start) opening).Counts settings (ofCommands opening) surplus := by
  obtain ⟨begun, -, hcommands⟩ := Bootstrap.Begun.begin hbegin
  obtain ⟨hnone, hlaunching, hstops⟩ := Bootstrap.sequences_of_begin hbegin
  have keeps : line.Keeps settings (ofCommands opening) := by
    refine ⟨haround, fun owed howed => ?_, ?_⟩
    · rw [hpending owed howed]
      trivial
    · rw [hstage]
      exact begun
  have hanswers : line.answers = 0 := by
    apply List.sum_eq_zero
    intro slots hslots
    obtain ⟨owed, howed, rfl⟩ := List.mem_map.mp hslots
    rw [hpending owed howed]
    rfl
  have hhandouts : line.handouts = 0 := by
    have hle := line.handouts_le
    rw [hanswers] at hle
    exact Nat.le_zero.mp hle
  have counted : Counted { line with stage := .starting start } opening
      (line.follow (.starting start) opening) := .foldl opening haround
  have hstill : (line.follow (.starting start) opening).stage = .starting start :=
    stage_follow haround ..
  refine ⟨keeps.follow (List.Subset.refl _) (List.Subset.refl _) (fun slot handle hmem => ?_) begun,
    fun _ => ?_, fun _ => ?_⟩
  · obtain ⟨_, _, hlaunch⟩ := hcommands _ hmem
    simp at hlaunch
  · rw [counted.owed, hstill, Stage.launching, hlaunching]
    exact (congrArg (· + launchSlots opening) hanswers).trans (zero_add _)
  · have hcount := counted.inFlight
    rw [hstops, show handouts { line with stage := .starting start } = 0 from hhandouts] at hcount
    rw [sequences, hstill, Stage.sequences, hnone, ← hworld]
    simpa using hcount

theorem opening {sim : SimulatedFleet} {token : String} {files : Files} {cancelAt : Option Nanos}
    (hopening : Timeline.opening SimulatedFleet.surroundings sim settings token files cancelAt =
      .begun first) : ∃ notes, first.Counts settings notes sim.inFlight := by
  unfold Timeline.opening at hopening
  split at hopening
  next => simp at hopening
  next after start opening hbegin =>
    obtain rfl := Opening.begun.inj hopening
    refine ⟨_, begin hbegin rfl rfl (fun owed howed => ?_) rfl⟩
    dsimp only at howed
    split at howed
    next => rw [List.mem_singleton.mp howed]
    next => simp at howed

theorem beat (counts : line.Counts settings notes surplus) {cue : Cue}
    (hplay : line.play? cue = some (next, commands)) : Beat line next :=
  beat_of_play? counts.keeps.around counts.keeps.lawful (fun _ => counts.keeps.sound) hplay

/-- Whoever has not failed after a prompt had not failed before. -/
theorem isUp (counts : line.Counts settings notes surplus) {prompt : Prompt}
    (hprompt : line.prompt? prompt = some (next, commands)) (hup : next.stage.isDown = false) :
    line.stage.isDown = false := by
  cases prompt with
  | recount =>
      obtain ⟨rfl, -⟩ := Prod.mk.inj (Option.some.inj hprompt)
      exact hup
  | cue cue => exact (counts.beat hprompt).isUp counts.keeps.around hup

/-- A prompt adds to the counter what it gives up, and the most that was counted is what is open
now or was counted before. -/
theorem passes (counts : line.Counts settings notes surplus) {cue : Cue}
    (hplay : line.play? cue = some (next, commands)) (hup : next.stage.isDown = false) :
    Passes line next 0 cue.abandonments 0 := by
  have hbefore := (counts.beat hplay).isUp counts.keeps.around hup
  have horderly : ∀ system, line.stage = .running system → system.Orderly :=
    fun _ hstage => (counts.keeps.sound hstage).orderly
  exact .play counts.keeps.around horderly counts.keeps.lawful (counts.owed hbefore) hplay hup

theorem step (counts : line.Counts settings notes surplus) {prompt : Prompt}
    (hprompt : line.prompt? prompt = some (next, commands)) :
    ∃ more, next.Counts settings more (surplus + prompt.abandonments) := by
  cases prompt with
  | recount =>
      obtain ⟨rfl, -⟩ := Prod.mk.inj (Option.some.inj hprompt)
      refine ⟨notes, ⟨counts.keeps.around, counts.keeps.lawful, counts.keeps.stage⟩, counts.owed,
        fun hup => ?_⟩
      rw [Prompt.abandonments, Nat.cast_zero, add_zero]
      exact counts.inFlight hup
  | cue cue =>
      obtain ⟨more, keeps⟩ := counts.keeps.beat (counts.beat hprompt)
      refine ⟨more, keeps, fun hup => ?_, fun hup => ?_⟩
      · have howed := (counts.passes hprompt hup).owed
        rw [counts.owed (counts.isUp hprompt hup), add_zero, add_comm] at howed
        exact add_left_cancel howed
      · have hcount := (counts.passes hprompt hup).inFlight
        have hbefore := counts.inFlight (counts.isUp hprompt hup)
        rw [Prompt.abandonments]
        omega

theorem course (counts : ∃ notes, first.Counts settings notes surplus)
    (hcourse : Course prompt? first history line) :
    ∃ notes, line.Counts settings notes (surplus + abandonments history) := by
  induction hcourse with
  | start => simpa using counts
  | next _ hprompt ih =>
      obtain ⟨notes, before⟩ := ih
      simpa [add_assoc] using before.step hprompt

theorem isUp_of_course (counts : ∃ notes, first.Counts settings notes surplus)
    (hcourse : Course prompt? first history line) (hup : line.stage.isDown = false) :
    first.stage.isDown = false := by
  induction hcourse with
  | start => exact hup
  | next earlier hprompt ih =>
      obtain ⟨notes, before⟩ := course counts earlier
      exact ih (before.isUp hprompt hup)

/-- While no call is under way nothing is open. -/
theorem sequences_of_idle (counts : line.Counts settings notes surplus) {system : System}
    (hstage : line.stage = .running system) (hidle : system.underway? = none) :
    line.sequences = 0 := by
  have orderly := (counts.keeps.sound hstage).orderly
  obtain ⟨hnone, hlaunching⟩ := System.sequences_of_idle orderly hidle
  have hle := line.handouts_le
  rw [counts.owed (by rw [hstage]; rfl), hstage, Stage.launching, hlaunching] at hle
  rw [sequences, hstage, Stage.sequences, hnone, Nat.le_zero.mp hle]

/-- Until a shutdown is called at most one sequence is open. -/
theorem sequences_le_one (counts : line.Counts settings notes surplus) {system : System}
    (hstage : line.stage = .running system) (hopen : system.fleet.shutDown = false) :
    line.sequences ≤ 1 := by
  have hone := System.sequences_le_one (counts.keeps.sound hstage) hopen
  have hle := line.handouts_le
  rw [counts.owed (by rw [hstage]; rfl), hstage, Stage.launching] at hle
  rw [sequences, hstage, Stage.sequences]
  omega

/-- So the counter shows at most one more than were given up. -/
theorem inFlight_le (counts : line.Counts settings notes surplus) {system : System}
    (hstage : line.stage = .running system) (hopen : system.fleet.shutDown = false) :
    line.world.inFlight ≤ surplus + 1 := by
  have hone := counts.sequences_le_one hstage hopen
  have hcount := counts.inFlight (by rw [hstage]; rfl)
  omega

end Counts

/-- Somebody waits for what a promise completes. -/
def Awaits (line : Timeline SimulatedFleet) : Promise SimulatedFleet → Prop
  | .ready slot handle outcome =>
      (line.onStart? (.ready slot outcome)).isSome ∨ (line.awaiter? handle).isSome
  | .ended _ handle => (line.onStart? (.ended handle)).isSome ∨ (line.ender? handle).isSome
  | _ => False

/-- A sequence is complete with this prompt: the counter goes down. -/
def Completes (line : Timeline SimulatedFleet) : Prompt → Prop
  | .cue (.keep place) => ∃ owed, line.pending[place]? = some owed ∧ line.Awaits owed.promise
  | _ => False

/-- Whoever waits for a sequence to be complete has one open. -/
theorem sequences_of_awaits {promise : Promise SimulatedFleet} (hawaits : line.Awaits promise) :
    0 < line.stage.sequences := by
  cases hstage : line.stage with
  | starting start =>
      cases promise with
      | ready slot handle outcome =>
          simp only [Awaits, onStart?, awaiter?, hstage, Option.isSome_map, Option.isSome_none,
            Bool.false_eq_true, or_false] at hawaits
          exact Bootstrap.sequences_of_ready hawaits
      | ended slot handle =>
          simp only [Awaits, onStart?, ender?, hstage, Option.isSome_map, Option.isSome_none,
            Bool.false_eq_true, or_false] at hawaits
          exact Bootstrap.sequences_of_ended hawaits
      | fireRoot | launched | answer | call => exact hawaits.elim
  | running system =>
      cases promise with
      | ready slot handle outcome =>
          simp only [Awaits, onStart?, awaiter?, hstage, Option.isSome_map, Option.isSome_none,
            Bool.false_eq_true, false_or, List.find?_isSome] at hawaits
          obtain ⟨call, hmem, hawaiting⟩ := hawaits
          refine Nat.lt_of_lt_of_le ?_ (System.sequences_of_mem hmem)
          split at hawaiting
          next hphase =>
            rw [hphase]
            exact Nat.zero_lt_one
          next => simp at hawaiting
      | ended slot handle =>
          simp only [Awaits, onStart?, ender?, hstage, Option.isSome_map, Option.isSome_none,
            Bool.false_eq_true, false_or, List.find?_isSome] at hawaits
          obtain ⟨call, hmem, hending⟩ := hawaits
          refine Nat.lt_of_lt_of_le ?_ (System.sequences_of_mem hmem)
          split at hending
          next hphase =>
            rw [hphase]
            exact Nat.zero_lt_one
          next hphase =>
            rw [hphase]
            exact List.length_pos_of_mem (of_decide_eq_true hending)
          next => simp at hending
      | fireRoot | launched | answer | call => exact hawaits.elim

theorem sequences_of_completes {prompt : Prompt} (hcompletes : line.Completes prompt) :
    0 < line.stage.sequences := by
  cases prompt with
  | recount => exact hcompletes.elim
  | cue cue =>
      cases cue with
      | keep place =>
          obtain ⟨owed, -, hawaits⟩ := hcompletes
          exact sequences_of_awaits hawaits
      | start | enter | run | outside | fault | note => exact hcompletes.elim

namespace Counts

/-- A running fleet goes on running, and does not open again. -/
theorem exists_running (counts : line.Counts settings notes surplus) {prompt : Prompt}
    (hprompt : line.prompt? prompt = some (next, commands)) {system : System}
    (hstage : line.stage = .running system) :
    ∃ after, next.stage = .running after ∧
      (after.fleet.shutDown = false → system.fleet.shutDown = false) := by
  cases prompt with
  | recount =>
      obtain ⟨rfl, -⟩ := Prod.mk.inj (Option.some.inj hprompt)
      exact ⟨system, hstage, id⟩
  | cue cue =>
      cases counts.beat hprompt with
      | still _ _ _ hnext =>
          subst hnext
          exact ⟨system, hstage, id⟩
      | start hstarting => simp [hstage] at hstarting
      | enter hstarting => simp [hstage] at hstarting
      | @run _ _ _ after _ _ hrunning hstep _ _ hnext =>
          subst hnext
          obtain rfl := Stage.running.inj (hstage.symm.trans hrunning)
          have orderly := (counts.keeps.sound hstage).orderly
          obtain ⟨-, hstepped⟩ := System.step_of_step? orderly hstep
          exact ⟨after, stage_follow (by exact counts.keeps.around) .., hstepped.isOpen⟩

/-- The most that was counted is what is open now, or was counted before. -/
theorem most (counts : line.Counts settings notes surplus) {prompt : Prompt}
    (hprompt : line.prompt? prompt = some (next, commands)) (hup : next.stage.isDown = false) :
    next.world.maxInFlight ≤ max line.world.maxInFlight next.world.inFlight := by
  cases prompt with
  | recount =>
      obtain ⟨rfl, -⟩ := Prod.mk.inj (Option.some.inj hprompt)
      exact le_max_right ..
  | cue cue => exact (counts.passes hprompt hup).most

/-- Until a shutdown is called a running fleet counts at most one sequence more than it has given
up. -/
theorem maxInFlight_of_course (counts : first.Counts settings notes surplus) {begun : System}
    (hbegun : first.stage = .running begun)
    (hmost : begun.fleet.shutDown = false → first.world.maxInFlight ≤ surplus + 1)
    (hcourse : Course prompt? first history line) :
    ∃ system, line.stage = .running system ∧ (system.fleet.shutDown = false →
      line.world.maxInFlight ≤ surplus + abandonments history + 1) := by
  induction hcourse with
  | start => exact ⟨begun, hbegun, by simpa using hmost⟩
  | next earlier hprompt ih =>
      obtain ⟨middle, hmiddle, hbefore⟩ := ih
      obtain ⟨_, between⟩ := course ⟨_, counts⟩ earlier
      obtain ⟨_, after⟩ := between.step hprompt
      obtain ⟨system, hstage, hstill⟩ := between.exists_running hprompt hmiddle
      refine ⟨system, hstage, fun hopen => ?_⟩
      have hup : Stage.isDown (.running system) = false := rfl
      -- Either it was counted before, or it is what is open now: one, and those that were given up.
      have hlast := between.most hprompt (hstage ▸ hup)
      have hnow := after.inFlight_le hstage hopen
      have hearly := hbefore (hstill hopen)
      rw [abandonments_append, abandonments_cons, abandonments_nil]
      dsimp only
      omega

end Counts

/-! ### A restart that is given up -/

section GivenUp

variable {world : SimulatedFleet} {slot : Nat}

/-- The moment as one of a history in which the most open sequences may be counted anew. -/
def prompted (moment : Moment (Timeline SimulatedFleet) Cue) :
    Moment (Timeline SimulatedFleet) Prompt :=
  { moment with event := .cue moment.event }

theorem course_prompted {moments : List (Moment (Timeline SimulatedFleet) Cue)}
    (hcourse : Course play? first moments line) :
    Course prompt? first (moments.map prompted) line := by
  induction hcourse with
  | start => exact .start
  | @next _ last _ cue _ _ hplay ih =>
      have hprompt : last.prompt? (.cue cue) = _ := hplay
      rw [List.map_append]
      exact .next ih hprompt

theorem abandonments_prompted {moments : List (Moment (Timeline SimulatedFleet) Cue)}
    (hkept : ∀ moment ∈ moments, moment.event.abandonments = 0) :
    abandonments (moments.map prompted) = 0 := by
  apply List.sum_eq_zero
  simpa [prompted, Prompt.abandonments] using hkept

/-- While the fleet starts no restart is given up. -/
theorem abandonments_of_starting {moments : List (Moment (Timeline SimulatedFleet) Cue)}
    (hcourse : Course play? first moments line)
    (hstarting : ∀ moment ∈ moments, ∃ start, moment.before.stage = .starting start) :
    abandonments (moments.map prompted) = 0 := by
  refine abandonments_prompted fun moment hmem => ?_
  obtain ⟨-, -, -, -, hplay, -⟩ := hcourse.cut hmem
  obtain ⟨start, hstage⟩ := hstarting moment hmem
  cases hcue : moment.event with
  | run event => simp [hcue, play?, onRun?, hstage] at hplay
  | keep | start | enter | outside | fault | note => rfl

theorem Calm.abandonments {monitor : Monitor} {moment : Moment (Timeline SimulatedFleet) Cue}
    (calm : Calm monitor moment) : moment.event.abandonments = 0 := by
  cases hcue : moment.event with
  | run event =>
      cases event with
      | abandoned id => exact absurd hcue (calm.kept id)
      | outside | call | advance | launched | ready | ended | tick | survey | join | quit | probe
      | answered | drop => rfl
  | keep | start | enter | outside | fault | note => rfl

variable {fleet : Fleet} {member : Member}

/-- A restart of a stopped member, whose process would never become ready, is given up because of
the root signal. -/
theorem exists_given_up (system : System) (haround : line.around = SimulatedFleet.surroundings)
    (hdelay : world.opDelay = 0) (hstarts : slot ∉ world.failing)
    (hmember : fleet.member? slot = some member) (hprocess : fleet.process? slot = none)
    (hopen : fleet.shutDown = false) :
    ∃ moments last after, abandonments (moments.map prompted) = 1 ∧
      Course play? (line.having world
        (system.having fleet [⟨0, .stop slot, .finished (.ok ())⟩] []) []) moments last ∧
      last.stage = .running after ∧ after.fleet.shutDown = false ∧
      (∀ call ∈ after.calls, ∃ result, call.phase = .finished result) ∧
      ∃ moment ∈ moments, moment.before.Completes (.cue moment.event) := by
  let ended : Call := ⟨0, .stop slot, .finished (.ok ())⟩
  have hid : ended.id = 0 := rfl
  let hanging := world.suffer (.hanging slot)
  have hfault : (line.having world (system.having fleet [ended] []) []).play?
      (.fault (.hanging slot)) =
        some (line.having hanging (system.having fleet [ended] []) [], []) := having_fault _
  let fired : Fleet := { fleet with rootFired := true }
  have hroot : (system.having fleet [ended] []).step? (.outside .fireRoot) =
      some (system.having fired [ended] [], []) := rfl
  have hfired : fired.member? slot = some member := hmember
  have hcooled := System.having_cooled_restart system hid hfired
  -- The launch succeeds, but the process never becomes ready.
  have hlaunches : slot ∉ hanging.failing := hstarts
  let launched := (hanging.launch slot member.config.joining).1
  obtain ⟨-, hquick, hsame⟩ := SimulatedFleet.launch_of_starts hlaunches member.config.joining
  have hhanging : slot ∈ launched.hanging := hsame ▸ List.mem_insert_self
  let cooled := fired.waited (Calling.cooledAt fired slot)
  let staffed : Fleet :=
    { cooled.changeMember slot (·.setConfig member.config.joining) with
      launches := cooled.launches + 1 }
  let after := system.having staffed
    [ended, ⟨1, .restart slot, .finished (.error .cancelled)⟩] []
  have hlauncher : (line.having launched
      (system.having cooled [ended, ⟨1, .restart slot, .launching⟩] [1]) []).launcher? slot =
        some 1 := by
    simp [launcher?, having, System.having, ended, Calling.slotOf]
  have hender : (line.having (launched.hardStop slot) (system.having staffed
      [ended, ⟨1, .restart slot, .ending cooled.launches (.error .cancelled)⟩] [1])
        []).ender? cooled.launches = some 1 := by
    simp [ender?, having, System.having, ended]
  have habandoned : (system.having staffed
      [ended, ⟨1, .restart slot, .awaiting cooled.launches⟩] [1]).step? (.abandoned 1) = _ :=
    System.having_abandoned_restart system hid rfl
  refine ⟨_, _, after, ?_, .next (.next (.next (.next (.next (.next (.next (.next (.single hfault)
    (having_outside hroot))
    (having_run (System.having_call_restart system (Fleet.slot_lt hfired)) rfl))
    (having_run (System.having_lock_restart system hid hprocess hopen) rfl))
    (having_outside (System.having_wait system _)))
    (having_launch haround hlaunches hcooled rfl))
    (having_launched haround hhanging hlauncher (System.having_launched_restart system hid _)))
    (having_teardown haround (hquick.trans hdelay) habandoned rfl))
    (having_ended haround hender (System.having_ended_restart system hid _)), rfl, hopen, ?_, ?_⟩
  · rfl
  · simp [after, System.having, ended]
  · exact ⟨_, List.mem_append_right _ (List.mem_singleton_self _), _, rfl,
      .inr (Option.isSome_of_eq_some hender)⟩

end GivenUp

end Timeline

/-- The smallest fleet, in which a leader is looked for without a pause. -/
def swiftSettings : FleetSettings :=
  { soloSettings with monitor := { leaderDiscoveryBackoffMs := 0 } }

/-- In the smallest fleet a member is stopped, and its restart is given up. -/
theorem swift_gives_up : ∃ first early mark late begun last system,
    Timeline.opening SimulatedFleet.surroundings
      { size := swiftSettings.fleet.size.toNat, opDelay := 0 } swiftSettings "solo" {} none =
        .begun first ∧
    Course Timeline.prompt? first (early ++ mark :: late) last ∧ mark.event = .recount ∧
    mark.before.stage = .running begun ∧ last.stage = .running system ∧
    system.fleet.shutDown = false ∧
    (∀ call ∈ system.calls, ∃ result, call.phase = .finished result) ∧
    abandonments (early ++ mark :: late) = 1 ∧
    ∃ moment ∈ late, moment.before.Completes moment.event := by
  obtain ⟨first, moments, line, fleet, hopening, hmoments, hstarting, hstage, hfleet, hpending,
    hale, -, -⟩ := crew_starts (show 0 + 1 = (1 : UInt64).toNat from rfl) (by decide) "solo"
  have hearly := Timeline.course_prompted hmoments
  obtain ⟨_, counts⟩ := Timeline.Counts.course (Timeline.Counts.opening hopening) hearly
  have haround := counts.keeps.around
  obtain ⟨member, handle, hmember, hprocess⟩ :=
    hfleet.exists_seated (show 0 < (swiftCrew 1).fleet.size.toNat by decide)
  let started := System.ofStart fleet swiftSettings.monitor.tickInterval
  let counted := line.world.resetInFlight
  let recounted := line.having counted (started.having fleet [] []) []
  have hrecount : line.prompt? .recount = some (recounted, []) := by
    rw [← Timeline.having_ofStart hstage hpending]
    rfl
  have hquick : counted.opDelay = 0 := hale.opDelay
  obtain ⟨calls, hcalm, hstop⟩ := Timeline.exists_stopped started haround hquick hmember hprocess
  let stopped := (fleet.waited (Calling.cooledAt fleet 0)).release 0 .stop
  have hstopped : stopped.member? 0 =
      some (member.markStopped (fleet.waited (Calling.cooledAt fleet 0)).clock) :=
    (Fleet.member?_changeMember_self ..).trans (congrArg _ hmember)
  have hempty : stopped.process? 0 = none := by
    rw [Fleet.process?_release, if_pos rfl]
  let halved := (counted.hardStop 0).ended 0
  have hreliable : 0 ∉ halved.failing := by
    rw [show halved.failing = [] from hale.failing]
    exact List.not_mem_nil
  have hswift : halved.opDelay = 0 := hquick
  obtain ⟨late, last, system, hone, hlate, hlast, hstill, hfinished, moment, hmem, hcompletes⟩ :=
    Timeline.exists_given_up started haround hswift hreliable hstopped hempty
      hfleet.fledgling.isOpen
  have hwhole := hearly.append ((Course.single hrecount).append
    (Timeline.course_prompted (hstop.append hlate)))
  refine ⟨first, moments.map Timeline.prompted, ⟨line, .recount, [], recounted⟩,
    (calls ++ late).map Timeline.prompted, _, last, system, hopening, hwhole, rfl, hstage, hlast,
    hstill, hfinished, ?_, Timeline.prompted moment,
    List.mem_map_of_mem (List.mem_append_right _ hmem), hcompletes⟩
  have hnone := Timeline.abandonments_of_starting hmoments hstarting
  have hcalls :=
    Timeline.abandonments_prompted fun moment hcall => (hcalm moment hcall).abandonments
  rw [List.map_append, abandonments_append, abandonments_cons, abandonments_append, hnone, hcalls,
    hone, Prompt.abandonments_recount]

/-- From its start on, whatever is called, whatever fails and whenever the root signal fires: the
counter of a fleet that came to run shows the sequences that are open and one for every restart that
gave its process up before it was ready. While no call is under way none is open, the counter never
goes below what it began with, and after it was counted anew, until a shutdown is called, at most
one sequence is ever counted beside those that were given up. -/
theorem in_flight_counts_open_and_abandoned {sim : SimulatedFleet} {settings : FleetSettings}
    {token : String} {files : Files} {cancelAt : Option Nanos}
    {first line : Timeline SimulatedFleet} {system : System}
    {history : List (Moment (Timeline SimulatedFleet) Prompt)}
    (hopening : Timeline.opening SimulatedFleet.surroundings sim settings token files cancelAt =
      .begun first)
    (hhistory : Course Timeline.prompt? first history line)
    (hstage : line.stage = .running system) :
    line.world.inFlight = sim.inFlight + abandonments history + line.sequences ∧
      (system.underway? = none → line.sequences = 0) ∧
      (∀ moment ∈ history, moment.before.Completes moment.event →
        sim.inFlight < moment.before.world.inFlight) ∧
      ∀ early mark late begun, history = early ++ mark :: late → mark.event = .recount →
        mark.before.stage = .running begun → system.fleet.shutDown = false →
        line.world.maxInFlight ≤ sim.inFlight + abandonments history + 1 := by
  have opened := Timeline.Counts.opening hopening
  obtain ⟨notes, counts⟩ := Timeline.Counts.course opened hhistory
  have hup : line.stage.isDown = false := by rw [hstage]; rfl
  refine ⟨counts.inFlight hup, counts.sequences_of_idle hstage, ?_, ?_⟩
  · intro moment hmem hcompletes
    -- The fleet runs in the end, so its start had not failed at this moment.
    obtain ⟨early, late, rfl, hearly, hprompt, hlate⟩ := hhistory.cut hmem
    obtain ⟨_, before⟩ := Timeline.Counts.course opened hearly
    have hbefore : moment.before.stage.isDown = false :=
      Timeline.Counts.isUp_of_course ⟨_, before⟩ ((Course.single hprompt).append hlate) hup
    have hopen := Timeline.sequences_of_completes hcompletes
    have hcount := before.inFlight hbefore
    rw [Timeline.sequences] at hcount
    omega
  · rintro early mark late begun rfl hrecount hbegun hopen
    obtain ⟨hearly, hprompt, hlate⟩ := hhistory.at_moment
    obtain ⟨_, before⟩ := Timeline.Counts.course opened hearly
    rw [hrecount] at hprompt
    obtain ⟨_, after⟩ := before.step hprompt
    obtain ⟨hafter, -⟩ := Prod.mk.inj (Option.some.inj hprompt)
    -- Right after the recount the most that was counted is what is open.
    have hmost : begun.fleet.shutDown = false →
        mark.after.world.maxInFlight ≤ sim.inFlight + abandonments early + 1 := by
      intro hopen
      rw [← hafter]
      exact before.inFlight_le hbegun hopen
    have hrunning : mark.after.stage = .running begun := by
      rw [← hafter]
      exact hbegun
    rw [Prompt.abandonments_recount, Nat.cast_zero, add_zero] at after
    obtain ⟨_, hlast, hbound⟩ := after.maxInFlight_of_course hrunning hmost hlate
    obtain rfl := Stage.running.inj (hstage.symm.trans hlast)
    have hlastly := hbound hopen
    rw [abandonments_append, abandonments_cons, hrecount, Prompt.abandonments_recount]
    omega

/-- After a stop and a restart that was given up both calls are finished. -/
theorem given_up_restart_stays_counted : ∃ first history line system,
    Timeline.opening SimulatedFleet.surroundings
      { size := swiftSettings.fleet.size.toNat, opDelay := 0 } swiftSettings "solo" {} none =
        .begun first ∧
    Course Timeline.prompt? first history line ∧ line.stage = .running system ∧
    system.underway? = none ∧ abandonments history = 1 ∧ line.world.inFlight = 1 ∧
    line.world.maxInFlight ≤ 2 ∧
    ∃ moment ∈ history, moment.before.Completes moment.event ∧
      0 < moment.before.world.inFlight := by
  obtain ⟨first, early, mark, late, begun, line, system, hopening, hhistory, hmark, hbegun, hstage,
    hopen, hfinished, hone, moment, hmem, hcompletes⟩ := swift_gives_up
  obtain ⟨hcount, hrest, hcompleted, hmost⟩ :=
    in_flight_counts_open_and_abandoned hopening hhistory hstage
  have hidle : system.underway? = none := by
    refine List.find?_eq_none.mpr fun call hcall => ?_
    obtain ⟨result, hphase⟩ := hfinished call hcall
    simp [hphase, CallPhase.isUnderway]
  have hlate : moment ∈ early ++ mark :: late :=
    List.mem_append_right _ (List.mem_cons_of_mem _ hmem)
  have hbound := hmost early mark late begun rfl hmark hbegun hopen
  rw [hone, hrest hidle] at hcount
  rw [hone] at hbound
  exact ⟨first, _, line, system, hopening, hhistory, hstage, hidle, hone, hcount, hbound, moment,
    hlate, hcompletes, hcompleted moment hlate hcompletes⟩

/-- So the counter of a fleet at rest need not be at zero. -/
theorem not_every_fleet_at_rest_has_none_in_flight :
    ¬ ∀ (settings : FleetSettings) (opDelay : Nanos) (token : String) (files : Files)
      (cancelAt : Option Nanos) (first line : Timeline SimulatedFleet) (system : System)
      (history : List (Moment (Timeline SimulatedFleet) Prompt)),
      Timeline.opening SimulatedFleet.surroundings
        { size := settings.fleet.size.toNat, opDelay } settings token files cancelAt =
          .begun first →
      Course Timeline.prompt? first history line → line.stage = .running system →
      system.fleet.shutDown = false →
      (∀ call ∈ system.calls, ∃ result, call.phase = .finished result) →
      line.world.inFlight = 0 := by
  intro hall
  obtain ⟨first, early, mark, late, begun, line, system, hopening, hhistory, -, -, hstage, hopen,
    hfinished, hone, -⟩ := swift_gives_up
  have hnone := hall _ _ _ _ _ _ _ _ _ hopening hhistory hstage hopen hfinished
  obtain ⟨notes, counts⟩ := Timeline.Counts.course (Timeline.Counts.opening hopening) hhistory
  have hcount := counts.inFlight (by rw [hstage]; rfl)
  rw [hone, hnone] at hcount
  dsimp only at hcount
  omega

end Simulation

end FleetControl
