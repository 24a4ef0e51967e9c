import FleetControl.Proofs.Fleet.AllOrNothing
import FleetControl.Proofs.Fleet.Occupation
import FleetControl.Proofs.Fleet.Round
import FleetControl.Proofs.Fleet.Stride
import FleetControl.Proofs.Simulation.Beats

/-!
# The simulated fleet mirrors the slots

A simulated fleet knows by itself which of its members run. While the fleet runs these are the
members whose slots hold a process, whatever was called and whatever failed: a process that became
ready is put into its slot at once, and one that is stopped at once is in no slot.
-/

namespace FleetControl

open EngineNote

namespace Bootstrap

/-- The process of a slot was launched and became ready. -/
def Runs (start : Bootstrap) (slot : Nat) : Prop :=
  match start.phase with
  | .launching _ => False
  | .awaiting outcomes => outcomes[slot]? = some (some (.ok ()))
  | _ => slot < start.handles.length

/-- A start with these settings has come here, after some notes. -/
def Begun (settings : FleetSettings) (notes : List EngineNote) (start : Bootstrap) : Prop :=
  ∃ token files after clock rootFired first opening begun,
    Bootstrap.begin settings token files clock rootFired = (after, .ok (first, opening)) ∧
    Course Bootstrap.step? first begun start ∧ notes = ofCommands opening ++ Bootstrap.notes begun

namespace Begun

variable {settings : FleetSettings} {notes : List EngineNote} {start next : Bootstrap}

theorem kept (begun : Begun settings notes start) :
    Kept settings.fleet.stopStartInterval notes start := by
  obtain ⟨token, files, after, clock, rootFired, first, opening, moments, hbegin, hcourse, rfl⟩ :=
    begun
  exact (Kept.begin hbegin).course hcourse

theorem step (begun : Begun settings notes start) {event : StartEvent} {commands : List Command}
    (hstep : start.step? event = some (next, commands)) :
    Begun settings (notes ++ (start.heard event ++ ofCommands commands)) next := by
  obtain ⟨token, files, after, clock, rootFired, first, opening, moments, hbegin, hcourse, rfl⟩ :=
    begun
  refine ⟨token, files, after, clock, rootFired, first, opening, _, hbegin, .next hcourse hstep, ?_⟩
  simp [Bootstrap.notes]

/-- A start that begins asks for no more than a launch. -/
theorem begin {token : String} {files after : Files} {clock : Clock} {rootFired : Bool}
    {opening : List Command}
    (hbegin : Bootstrap.begin settings token files clock rootFired =
      (after, .ok (start, opening))) :
    Begun settings (ofCommands opening) start ∧ (∀ slot, ¬ start.Runs slot) ∧
      ∀ command ∈ opening, ∃ slot config, command = .launch slot config := by
  refine ⟨⟨token, files, after, clock, rootFired, start, opening, [], hbegin, .start,
    by simp [Bootstrap.notes]⟩, ?_⟩
  unfold Bootstrap.begin at hbegin
  split at hbegin
  next => simp at hbegin
  next =>
    split at hbegin
    next => simp at hbegin
    next configs _ =>
      split at hbegin
      next => simp at hbegin
      next =>
        obtain ⟨rfl, hnext⟩ := Prod.mk.inj hbegin
        obtain ⟨rfl, rfl⟩ := Prod.ext_iff.mp (Except.ok.inj hnext)
        cases configs with
        | nil => simp [launchNext, Runs]
        | cons config todo => simp [launchNext, Runs]

theorem started (begun : Begun settings notes start) (hphase : start.phase = .started) :
    Started settings start.fleet := by
  obtain ⟨token, files, after, clock, rootFired, first, opening, moments, hbegin, hcourse, -⟩ :=
    begun
  exact ⟨token, files, after, clock, rootFired, first, opening, moments, start, hbegin, hcourse,
    hphase, rfl⟩

theorem size (begun : Begun settings notes start) (hphase : start.phase = .started) :
    start.fleet.members.length = settings.fleet.size.toNat :=
  (begun.started hphase).size_eq

end Begun

namespace Stride

variable {start next : Bootstrap} {event : StartEvent} {commands : List Command}
  {interval : Nanos} {notes : List EngineNote}

/-- Only processes that were handed out are awaited. -/
theorem handed_of_awaitReady (stride : Stride start event commands next)
    (kept : Kept interval notes next) {slot : Nat} {handle : Handle}
    (hmem : .awaitReady slot handle ∈ commands) : .handed slot handle ∈ notes := by
  cases stride with
  | muster hphase =>
      obtain ⟨⟨process, place⟩, hplace, hcommand⟩ := List.mem_map.mp hmem
      obtain ⟨rfl, rfl⟩ := Command.awaitReady.inj hcommand
      have hseat := List.mem_zipIdx_iff_getElem?.mp hplace
      have hfresh := (kept.liveLedger rfl).placed (by rw [List.getElem?_map, hseat]; rfl)
      exact handed_mem_about.mp (hfresh ▸ List.mem_singleton.mpr rfl)
  | fall _ hnone => exact absurd hmem (hnone slot handle)
  | ask _ _ _ _ hquery =>
      rcases hquery with rfl | ⟨config, rfl⟩ <;> simp at hmem
  | outside | unwind | launch | know | rally | release | seek | hear | complete | rest =>
      simp at hmem

/-- While a start is not on its way down, it stops nothing, and a process that becomes ready is the
only one to run that did not run before. -/
theorem runs (stride : Stride start event commands next) (kept : Kept interval notes start)
    (hup : next.phase.isDown = false) :
    start.phase.isDown = false ∧ (∀ slot handle, .hardStop slot handle ∉ commands) ∧
      ∀ slot, next.Runs slot ↔ start.Runs slot ∨ event = .ready slot (.ok ()) := by
  cases stride with
  | outside => exact ⟨hup, by simp, by simp [Runs]⟩
  | fall hdown => simp [hdown] at hup
  | unwind => simp [StartPhase.isDown] at hup
  | launch hphase => exact ⟨by rw [hphase]; rfl, by simp, by simp [Runs, hphase]⟩
  | muster hphase =>
      exact ⟨by rw [hphase]; rfl, by simp, by simp [Runs, hphase, List.getElem?_replicate]⟩
  | @know slot outcome outcomes hphase hslot =>
      refine ⟨by rw [hphase]; rfl, by simp, fun other => ?_⟩
      simp only [Runs, hphase, StartEvent.ready.injEq]
      by_cases hother : slot = other
      · subst other
        rw [List.getElem?_set_self (List.getElem?_eq_some_iff.mp hslot).1, hslot]
        simp
      · rw [List.getElem?_set_ne hother]
        simp [hother]
  | @rally slot due outcomes hphase hslot hall =>
      obtain ⟨hlength, -⟩ : StartPhase.Knows start.fleet start.handles (.awaiting outcomes) :=
        hphase ▸ kept.knows
      refine ⟨by rw [hphase]; rfl, by simp, fun other => ?_⟩
      simp only [Runs, hphase, StartEvent.ready.injEq, and_true]
      rw [← hlength]
      by_cases hother : slot = other
      · subst other
        simp [(List.getElem?_eq_some_iff.mp hslot).1]
      · rw [or_iff_left hother]
        refine ⟨fun hlt => ?_, fun hready => (List.getElem?_eq_some_iff.mp hready).1⟩
        have hmem : outcomes[other] ∈ outcomes.set slot (some (.ok ())) :=
          List.mem_of_getElem? ((List.getElem?_set_ne hother).trans (List.getElem?_eq_getElem hlt))
        rw [List.getElem?_eq_getElem hlt, hall _ hmem]
  | @release due outcomes hphase hall =>
      obtain ⟨hlength, -⟩ : StartPhase.Knows start.fleet start.handles (.awaiting outcomes) :=
        hphase ▸ kept.knows
      refine ⟨by rw [hphase]; rfl, by simp, fun other => ?_⟩
      simp only [Runs, hphase, reduceCtorEq, or_false]
      rw [← hlength]
      refine ⟨fun hlt => ?_, fun hready => (List.getElem?_eq_some_iff.mp hready).1⟩
      rw [List.getElem?_eq_getElem hlt, hall _ (List.getElem_mem hlt)]
  | seek hphase => exact ⟨by rw [hphase]; rfl, by simp, by simp [Runs, hphase]⟩
  | ask hphase _ _ _ hquery =>
      refine ⟨by rw [hphase]; rfl, ?_, by simp [Runs, hphase]⟩
      rcases hquery with rfl | ⟨config, rfl⟩ <;> simp
  | hear hphase => exact ⟨by rw [hphase]; rfl, by simp, by simp [Runs, hphase]⟩
  | complete hphase => exact ⟨by rw [hphase]; rfl, by simp, by simp [Runs, hphase]⟩
  | rest hphase => exact ⟨by rw [hphase]; rfl, by simp, by simp [Runs, hphase]⟩

end Stride

end Bootstrap

section Turns

variable {fleet next : Fleet} {underway later : Option Call} {heard notes : List EngineNote}
  {commands : List Command} {mark : Option Mark}

/-- Only processes that were handed out are awaited. -/
theorem Turn.handed_of_awaitReady (hturn : Turn fleet underway heard commands mark next later)
    {slot : Nat} {handle : Handle} (hmem : .awaitReady slot handle ∈ commands) :
    .handed slot handle ∈ heard := by
  cases hturn with
  | hand =>
      obtain ⟨rfl, rfl⟩ := Command.awaitReady.inj (List.mem_singleton.mp hmem)
      exact List.mem_singleton.mpr rfl
  | stop | giveUp | clear | launch => simp [teardown] at hmem
  | rest | signal | coolStop | coolRestart | empty | vanish | refuse | ready | ended | pass
  | clearEnded | cleared => simp at hmem

/-- A slot holds a process after a turn if it did before or its member was restarted, and no process
of it was stopped. -/
theorem Turn.occupied_iff (hturn : Turn fleet underway heard commands mark next later)
    (booked : Booked notes fleet underway) (slot : Nat) :
    (next.process? slot).isSome ↔
      ((fleet.process? slot).isSome ∨ mark = some (slot, .restart)) ∧
        ∀ handle, .hardStop slot handle ∉ commands := by
  cases hturn with
  | @stop id other due handle hdue hprocess =>
      rw [Fleet.process?_release]
      by_cases hother : slot = other
      · simp [hother, teardown]
      · simp [hother, teardown]
  | @clear id other left alive handle hprocess =>
      rw [Fleet.process?_release]
      by_cases hother : slot = other
      · simp [hother, teardown]
      · simp [hother, teardown]
  | @giveUp id other handle error =>
      -- The process that is given up was never in its slot.
      have hempty := Fleet.process?_eq_none_iff.mpr (booked.ledger.held rfl).2
      by_cases hother : slot = other
      · simp [hother, hempty]
      · simp [hother, teardown]
  | @ready id other handle hslot =>
      rw [Fleet.process?_occupy (booked.size ▸ hslot)]
      by_cases hother : slot = other
      · simp [hother]
      · simp [hother, Ne.symm hother]
  | rest | coolStop | coolRestart | empty | vanish | launch | refuse | hand | ended | pass
  | clearEnded | cleared | signal => simp [Fleet.process?, Fleet.changeMember]

/-- A fleet that is shut down has seen the root signal. -/
theorem Turn.warned (hturn : Turn fleet underway heard commands mark next later)
    (hwarned : fleet.shutDown = true → fleet.rootFired = true) :
    next.shutDown = true → next.rootFired = true := by
  cases hturn with
  | signal => exact fun _ => rfl
  | rest | coolStop | coolRestart | empty | stop | vanish | launch | refuse | hand | giveUp | ready
  | ended | pass | clear | clearEnded | cleared => exact hwarned

end Turns

namespace System.Step

variable {system next : System} {event : Event} {commands : List Command}
  {notes : List EngineNote}

theorem handed_of_awaitReady (hstep : system.Step event commands next) {slot : Nat}
    {handle : Handle} (hmem : .awaitReady slot handle ∈ commands) :
    .handed slot handle ∈ system.heard event := by
  cases hstep with
  | turn hturn => exact hturn.handed_of_awaitReady hmem
  | move hmove => rcases hmove.commands_eq with rfl | ⟨other, config, rfl⟩ <;> simp at hmem
  | outside _ _ hcommands => simp [hcommands] at hmem

theorem occupied_iff (hstep : system.Step event commands next)
    (booked : Booked notes system.fleet system.underway?) (slot : Nat) :
    (next.fleet.process? slot).isSome ↔
      ((system.fleet.process? slot).isSome ∨
        system.recorded? event = some (slot, .restart)) ∧
        ∀ handle, .hardStop slot handle ∉ commands := by
  cases hstep with
  | turn hturn => exact hturn.occupied_iff booked slot
  | move hmove _ _ _ hrecorded =>
      have hslots : next.fleet.process? slot = system.fleet.process? slot :=
        congrArg (·[slot]?.join) hmove.aside.slots
      rcases hmove.commands_eq with rfl | ⟨other, config, rfl⟩ <;> simp [hslots, hrecorded]
  | outside houtside hevent hcommands =>
      have hslots : next.fleet.process? slot = system.fleet.process? slot :=
        congrArg (·[slot]?.join) (Fleet.Aside.outside houtside).slots
      simp [hslots, hevent, hcommands, System.recorded?, Calling.recorded?]

theorem warned (hstep : system.Step event commands next)
    (hwarned : system.fleet.shutDown = true → system.fleet.rootFired = true) :
    next.fleet.shutDown = true → next.fleet.rootFired = true := by
  cases hstep with
  | turn hturn => exact hturn.warned hwarned
  | move hmove =>
      have hroot : next.fleet.rootFired = system.fleet.rootFired := hmove.rootFired_eq
      rw [hroot, show next.fleet.shutDown = _ from hmove.aside.shutDown]
      exact hwarned
  | @outside outer houtside =>
      rw [show next.fleet.shutDown = _ from (Fleet.Aside.outside houtside).shutDown]
      intro hshut
      have hroot := hwarned hshut
      cases outer with
      | time clock =>
          simp only [Fleet.outside?, Option.ite_none_right_eq_some, Option.some.injEq] at houtside
          rw [← houtside.2]
          exact hroot
      | fireRoot => rw [← Option.some.inj houtside]
      | touch files =>
          rw [← Option.some.inj houtside]
          exact hroot

end System.Step

/-- A running fleet of this size whose simulated members run where its slots hold processes. -/
structure System.Mirrored (size : Nat) (notes : List EngineNote) (running : List Nat)
    (system : System) : Prop where
  size : system.fleet.members.length = size
  sound : system.Sound notes
  attended : system.Attended
  matched : system.fleet.Matched
  warned : system.fleet.shutDown = true → system.fleet.rootFired = true
  occupied : ∀ slot, slot ∈ running ↔ (system.fleet.process? slot).isSome

namespace Simulation

/-- What a simulated fleet has in common with its controller. A start that fails may leave members
behind that become ready too late. -/
def Stage.Mirrored (settings : FleetSettings) (notes : List EngineNote) (running : List Nat) :
    Stage → Prop
  | .starting start => start.Begun settings notes ∧
      (start.phase.isDown = false → ∀ slot, slot ∈ running ↔ start.Runs slot)
  | .running system => system.Mirrored settings.fleet.size.toNat notes running

namespace Timeline

/-- A simulated fleet of the chosen size that keeps to what its controller asks. -/
structure Mirrors (settings : FleetSettings) (notes : List EngineNote)
    (line : Timeline SimulatedFleet) : Prop where
  around : line.around = SimulatedFleet.surroundings
  size : line.world.size = settings.fleet.size.toNat
  nodup : line.world.running.Nodup
  lawful : ∀ owed ∈ line.pending, owed.promise.Lawful notes
  stage : line.stage.Mirrored settings notes line.world.running

namespace Mirrors

variable {settings : FleetSettings} {notes : List EngineNote} {line next : Timeline SimulatedFleet}

theorem mirrored (mirrors : line.Mirrors settings notes) {system : System}
    (hstage : line.stage = .running system) :
    system.Mirrored settings.fleet.size.toNat notes line.world.running := by
  have hmirrored := mirrors.stage
  rwa [hstage] at hmirrored

theorem sound (mirrors : line.Mirrors settings notes) {system : System}
    (hstage : line.stage = .running system) : system.Sound notes :=
  (mirrors.mirrored hstage).sound

/-- In a running fleet a simulated member runs if its slot holds a process. -/
theorem occupied (mirrors : line.Mirrors settings notes) {system : System}
    (hstage : line.stage = .running system) (slot : Nat) :
    slot ∈ line.world.running ↔ (line.fleet.process? slot).isSome := by
  rw [(mirrors.mirrored hstage).occupied, Timeline.fleet, hstage]

/-- The controller takes a step, and its commands are carried out. -/
theorem follow (mirrors : line.Mirrors settings notes) {more : List EngineNote}
    {pending : List (Pending SimulatedFleet)} {world : SimulatedFleet} {stage : Stage}
    {commands : List Command} {gained : Nat → Prop} (hpending : pending ⊆ line.pending)
    (hgains : line.world.Gains world gained) (hnotes : notes ⊆ more)
    (hhanded : ∀ slot handle, .awaitReady slot handle ∈ commands → .handed slot handle ∈ more)
    (hstage : ∀ running : List Nat, (∀ slot, slot ∈ running ↔
      (slot ∈ line.world.running ∨ gained slot) ∧ ∀ handle, .hardStop slot handle ∉ commands) →
      stage.Mirrored settings more running) :
    ({ line with pending, world }.follow stage commands).Mirrors settings more := by
  have hobeyed : Obeyed { line with pending, world, stage } commands
      ({ line with pending, world }.follow stage commands) := .foldl commands mirrors.around
  have hnodup := hgains.nodup mirrors.nodup
  refine ⟨hobeyed.around.trans mirrors.around, ?_, hobeyed.nodup hnodup, ?_, ?_⟩
  · exact hobeyed.size.trans (hgains.size.trans mirrors.size)
  · exact hobeyed.lawful more hhanded fun owed howed =>
      (mirrors.lawful owed (hpending howed)).mono hnotes
  · rw [hobeyed.stage]
    refine hstage _ fun slot => ?_
    rw [hobeyed.running hnodup, hgains.running]

/-- Whatever happens, the simulated fleet goes on mirroring the slots. -/
theorem beat (mirrors : line.Mirrors settings notes) (beat : Beat line next) :
    ∃ more, next.Mirrors settings more := by
  have hmirrored := mirrors.stage
  cases beat with
  | still hpending hsize hrunning hnext =>
      subst hnext
      refine ⟨notes, mirrors.around, hsize.trans mirrors.size, hrunning ▸ mirrors.nodup,
        fun owed howed => mirrors.lawful owed (hpending howed), ?_⟩
      rw [hrunning]
      exact mirrors.stage
  | @start pending world start after event commands hstage hstep hpending hgains hnext =>
      subst hnext
      rw [hstage] at hmirrored
      obtain ⟨begun, hruns⟩ := hmirrored
      have stride := Bootstrap.stride_of_step? hstep
      have hafter := begun.step hstep
      refine ⟨_, mirrors.follow hpending hgains (List.subset_append_left ..)
        (fun slot handle => stride.handed_of_awaitReady hafter.kept) fun running hrunning => ?_⟩
      refine ⟨hafter, fun hup slot => ?_⟩
      obtain ⟨hbefore, hstops, hsame⟩ := stride.runs begun.kept hup
      rw [hrunning, hruns hbefore, hsame, and_iff_left (hstops slot)]
  | @enter pending start hstage hphase hpending hnext =>
      subst hnext
      rw [hstage] at hmirrored
      obtain ⟨begun, hruns⟩ := hmirrored
      have hstarted := begun.started hphase
      have hknows : StartPhase.Knows start.fleet start.handles .started :=
        hphase ▸ begun.kept.knows
      refine ⟨notes, mirrors.around, mirrors.size, mirrors.nodup,
        fun owed howed => mirrors.lawful owed (hpending howed), begun.size hphase,
        begun.kept.sound hphase _, hstarted.attended _, hstarted.matched, ?_, fun slot => ?_⟩
      · intro hshut
        simp [System.ofStart, hstarted.fledgling.isOpen] at hshut
      · rw [hruns (by rw [hphase]; rfl) slot]
        simp only [Bootstrap.Runs, hphase, System.ofStart, Fleet.process?, hknows.2]
        by_cases hslot : slot < start.handles.length
        · simp [hslot]
        · simp [hslot]
  | @run pending world system after event commands hstage hstep hpending hgains hnext =>
      subst hnext
      rw [hstage] at hmirrored
      obtain ⟨hsize, sound, attended, matched, hwarned, hoccupied⟩ := hmirrored
      obtain ⟨-, hstepped⟩ := System.step_of_step? sound.orderly hstep
      have hsound : after.Sound (notes ++ (system.heard event ++ ofCommands commands)) := by
        simpa [System.notes] using sound.course (.single hstep)
      refine ⟨_, mirrors.follow hpending hgains (List.subset_append_left notes
        (system.heard event ++ ofCommands commands)) (fun slot handle hmem => ?_)
        fun running hrunning => ?_⟩
      · exact List.mem_append_right _ (List.mem_append_left _ (hstepped.handed_of_awaitReady hmem))
      · refine ⟨hstepped.size_eq.trans hsize, hsound, attended.step hstep,
          hstepped.matched matched sound.booked.size, hstepped.warned hwarned, fun slot => ?_⟩
        rw [hrunning, hoccupied, hstepped.occupied_iff sound.booked]

theorem play (mirrors : line.Mirrors settings notes) {cue : Cue} {commands : List Command}
    (hplay : line.play? cue = some (next, commands)) : ∃ more, next.Mirrors settings more :=
  mirrors.beat (beat_of_play? mirrors.around mirrors.lawful (fun _ => mirrors.sound) hplay)

theorem course {first last : Timeline SimulatedFleet}
    {moments : List (Moment (Timeline SimulatedFleet) Cue)}
    (mirrors : ∃ notes, first.Mirrors settings notes) (hcourse : Course play? first moments last) :
    ∃ notes, last.Mirrors settings notes := by
  induction hcourse with
  | start => exact mirrors
  | next _ hplay ih =>
      obtain ⟨notes, before⟩ := ih
      exact before.play hplay

/-- Before the first launch no member runs. -/
theorem begin {token : String} {files after : Files} {clock : Clock} {rootFired : Bool}
    {first : Bootstrap} {opening : List Command}
    (hbegin : Bootstrap.begin settings token files clock rootFired = (after, .ok (first, opening)))
    (haround : line.around = SimulatedFleet.surroundings)
    (hsize : line.world.size = settings.fleet.size.toNat) (hrunning : line.world.running = [])
    (hlawful : ∀ owed ∈ line.pending, owed.promise.Lawful (ofCommands opening))
    (hstage : line.stage = .starting first) :
    (line.follow (.starting first) opening).Mirrors settings (ofCommands opening) := by
  obtain ⟨begun, hnone, hlaunches⟩ := Bootstrap.Begun.begin hbegin
  have hsilent : ∀ slot handle, .hardStop slot handle ∉ opening ∧
      .awaitReady slot handle ∉ opening := by
    intro slot handle
    constructor
    · intro hmem
      obtain ⟨place, config, hlaunch⟩ := hlaunches _ hmem
      simp at hlaunch
    · intro hmem
      obtain ⟨place, config, hlaunch⟩ := hlaunches _ hmem
      simp at hlaunch
  have hempty : ∀ slot, slot ∈ line.world.running ↔ first.Runs slot := by
    simp [hrunning, hnone]
  have mirrors : line.Mirrors settings (ofCommands opening) := by
    refine ⟨haround, hsize, hrunning ▸ .nil, hlawful, ?_⟩
    rw [hstage]
    exact ⟨begun, fun _ => hempty⟩
  refine mirrors.follow (List.Subset.refl _) (.of_same rfl rfl fun _ => id)
    (List.Subset.refl _) (fun slot handle hmem => absurd hmem (hsilent slot handle).2)
    fun running hrunning => ⟨begun, fun _ slot => ?_⟩
  rw [hrunning, or_false, hempty, and_iff_left fun handle => (hsilent slot handle).1]

theorem opening {opDelay : Nanos} {token : String} {files : Files} {cancelAt : Option Nanos}
    (hopening : Timeline.opening SimulatedFleet.surroundings
      { size := settings.fleet.size.toNat, opDelay } settings token files cancelAt = .begun line) :
    (∃ notes, line.Mirrors settings notes) ∧ ∃ start, line.stage = .starting start := by
  unfold Timeline.opening at hopening
  split at hopening
  next => simp at hopening
  next after first opening hbegin =>
    obtain rfl := Opening.begun.inj hopening
    refine ⟨⟨_, begin hbegin rfl rfl rfl (fun owed howed => ?_) rfl⟩, first, stage_follow rfl ..⟩
    dsimp only at howed
    split at howed
    next =>
      obtain rfl := List.mem_singleton.mp howed
      trivial
    next => simp at howed

end Mirrors

end Timeline

end Simulation

end FleetControl
