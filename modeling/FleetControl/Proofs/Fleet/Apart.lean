import FleetControl.Proofs.Fleet.Quiet
import FleetControl.Proofs.Fleet.Reach
import FleetControl.Proofs.Fleet.Serial

/-!
# Calls and rounds apart

Calls may be made one after another and none of them during a round of the monitor, while no round
begins during a call. Then whoever is probed runs until the round is over, and so a record that says
that its member does not run shows nothing but a stopped one.
-/

namespace FleetControl

/-- The monitor waits for the next round, or is over. -/
def MonitorPhase.Rests (phase : MonitorPhase) : Prop := phase = .idle ∨ phase = .over

/-- No round of the monitor is going on. -/
def System.Unwatched (system : System) : Prop := system.monitor.phase.Rests

/-- Calls and rounds come one after another: each begins only once everything before it is over. -/
structure Sequential (moments : List (Moment System Event)) : Prop where
  serial : Serial moments
  unwatched : ∀ moment ∈ moments, ∀ operation, moment.event = .call operation →
    moment.before.Unwatched
  returned : ∀ moment ∈ moments, moment.event = .tick → moment.before.Returned

theorem Sequential.of_append {early late : List (Moment System Event)}
    (hsequential : Sequential (early ++ late)) : Sequential early ∧ Sequential late where
  left := ⟨fun moment hmem => hsequential.serial moment (List.mem_append_left _ hmem),
    fun moment hmem => hsequential.unwatched moment (List.mem_append_left _ hmem),
    fun moment hmem => hsequential.returned moment (List.mem_append_left _ hmem)⟩
  right := ⟨fun moment hmem => hsequential.serial moment (List.mem_append_right _ hmem),
    fun moment hmem => hsequential.unwatched moment (List.mem_append_right _ hmem),
    fun moment hmem => hsequential.returned moment (List.mem_append_right _ hmem)⟩

theorem Sequential.of_uncalled {moments : List (Moment System Event)}
    (hcalls : ∀ moment ∈ moments, ∀ operation, moment.event ≠ .call operation)
    (hticks : ∀ moment ∈ moments, moment.event = .tick → moment.before.Returned) :
    Sequential moments where
  serial moment hmem operation hcall := absurd hcall (hcalls moment hmem operation)
  unwatched moment hmem operation hcall := absurd hcall (hcalls moment hmem operation)
  returned := hticks

/-- A call goes on. -/
def Event.GoesOn : Event → Prop
  | .advance _ => True
  | .launched .. => True
  | .ready .. => True
  | .abandoned _ => True
  | .ended .. => True
  | _ => False

/-- The record in a slot says that its member runs. -/
def Fleet.Runs (fleet : Fleet) (slot : Nat) : Prop :=
  ∀ member, fleet.member? slot = some member → member.running = true

/-- Every record shows a stopped member where its member does not run. -/
def Fleet.Truthful (fleet : Fleet) : Prop :=
  ∀ slot member, fleet.member? slot = some member → member.running = false → member.status.Quiet

theorem Fleet.Runs.aside {fleet next : Fleet} {slot : Nat} (hruns : fleet.Runs slot)
    (haside : fleet.Aside next) : next.Runs slot := by
  intro member hmember
  obtain ⟨old, hold, hstanding⟩ := haside.exists_member? hmember
  rw [← Member.running_eq hstanding]
  exact hruns old hold

/-- A stop clears the snapshot, and what is restarted runs. -/
theorem Turn.truthful {fleet next : Fleet} {underway later : Option Call}
    {heard : List EngineNote} {commands : List Command} {mark : Option Mark}
    (hturn : Turn fleet underway heard commands mark next later) (truthful : fleet.Truthful) :
    next.Truthful := by
  intro slot member hmember hstopped
  obtain ⟨old, hold, hturned⟩ := hturn.exists_member? hmember
  cases hturned with
  | stopped => exact old.status.quiet_setStopped _
  | restarted => exact absurd hstopped.symm Bool.false_ne_true
  | kept => exact truthful slot old hold hstopped

namespace Watching

variable {watching next : Watching} {commands : List Command}

/-- A monitor that rests goes on resting unless a round begins, which it does not after the stop
signal. -/
theorem Move.rests (hmove : watching.Move next commands) (hrests : watching.monitor.phase.Rests)
    (hstop : watching.fleet.stopFired = true) : next.monitor.phase.Rests := by
  cases hmove with
  | tick _ _ hopen => exact absurd (hopen.symm.trans hstop) Bool.false_ne_true
  | gather hphase | look hphase | refresh hphase | note hphase | rest hphase | join hphase
  | recover hphase => simp [MonitorPhase.Rests, hphase] at hrests
  | quit => exact .inr rfl
  | ask | answer | word | commit | discard | fail | drop => exact hrests

/-- No probe outlasts its round, unless the stop signal ends the round. -/
theorem Move.alone (hmove : watching.Move next commands) (tidy : watching.Tidy)
    (halone : watching.monitor.phase.Rests → watching.probes = [])
    (hhalted : watching.fleet.stopFired = true → watching.monitor.phase.Rests)
    (hrests : next.monitor.phase.Rests) : next.probes = [] := by
  have hnone : ∀ {slot probe}, watching.probe? slot = some probe →
      ¬ watching.monitor.phase.Rests := by
    intro slot probe hprobe hrests
    have hmem := List.mem_of_find?_eq_some hprobe
    simp [halone hrests] at hmem
  cases hmove with
  | tick | gather | refresh | note | join | recover =>
      simp [MonitorPhase.Rests, setPhase] at hrests
  | look =>
      simp only [MonitorPhase.Rests, setPhase] at hrests
      split at hrests <;> simp at hrests
  | rest hphase =>
      refine List.eq_nil_iff_forall_not_mem.mpr fun probe hprobe => ?_
      obtain ⟨watch, hwatch, -⟩ := tidy.awaited (by simp [hphase]) probe hprobe
      simp [hphase, MonitorPhase.pending] at hwatch
  | quit hstop => simp [setPhase, halone (hhalted hstop)]
  | ask hprobe | answer hprobe | word hprobe | commit hprobe | discard hprobe | fail hprobe
  | drop hprobe => exact absurd hrests (hnone hprobe)

end Watching

namespace System

variable {system next : System} {event : Event} {commands : List Command}

/-- What only a call that has not returned accepts is not accepted where all have. -/
theorem Returned.call?_bind (returned : system.Returned) {id : Nat} {α : Type}
    {accept : Call → Option α}
    (hfinished : ∀ call result, call.phase = .finished result → accept call = none) :
    (system.calling.call? id).bind accept = none := by
  cases hcall : system.calling.call? id with
  | none => rfl
  | some call =>
      obtain ⟨result, hphase⟩ := returned call (Calling.call?_mem hcall)
      exact hfinished call result hphase

/-- No call goes on where all calls have returned. -/
theorem Returned.step?_eq_none (returned : system.Returned) (hgoes : event.GoesOn) :
    system.step? event = none := by
  cases event with
  | advance id =>
      have hnone : system.calling.advance? id = none :=
        returned.call?_bind fun call result hphase => by simp [hphase]
      simp [step?, hnone]
  | launched id outcome =>
      have hnone : system.calling.launched? id outcome = none :=
        returned.call?_bind fun call result hphase => by simp [hphase]
      simp [step?, hnone]
  | ready id outcome =>
      have hnone : system.calling.ready? id outcome = none :=
        returned.call?_bind fun call result hphase => by simp [hphase]
      simp [step?, hnone]
  | abandoned id =>
      have hnone : system.calling.abandoned? id = none :=
        returned.call?_bind fun call result hphase => by simp [hphase]
      simp [step?, hnone]
  | ended id handle =>
      have hnone : system.calling.ended? id handle = none :=
        returned.call?_bind fun call result hphase => by simp [hphase]
      simp [step?, hnone]
  | outside | call | tick | survey | join | quit | probe | answered | drop => exact hgoes.elim

/-- A call that goes on leaves the monitor alone. -/
theorem watching_of_goesOn (hstep : system.step? event = some (next, commands))
    (hgoes : event.GoesOn) : next.monitor = system.monitor ∧ next.probes = system.probes := by
  cases event with
  | advance | launched | ready | abandoned =>
      obtain ⟨calling, -, rfl⟩ := exists_of_onCalling hstep
      exact ⟨rfl, rfl⟩
  | ended =>
      simp only [step?, Option.map_eq_some_iff, Prod.mk.injEq] at hstep
      obtain ⟨calling, -, rfl, -⟩ := hstep
      exact ⟨rfl, rfl⟩
  | outside | call | tick | survey | join | quit | probe | answered | drop => exact hgoes.elim

/-! ## Probes of running members only -/

/-- A call that has not returned and a round never meet, and whoever is probed runs. -/
structure Apart (system : System) : Prop where
  apart : system.Returned ∨ system.Unwatched
  halted : system.fleet.stopFired = true → system.Unwatched
  alone : system.Unwatched → system.probes = []
  seen : ∀ slot begun, system.monitor.phase = .noting slot begun → system.fleet.Runs slot
  watched : ∀ probe ∈ system.probes, system.fleet.Runs probe.slot

/-- While the monitor rests, the calls may do what they like. -/
theorem Apart.of_unwatched (apart : system.Apart) (hunwatched : system.Unwatched)
    (hmonitor : next.monitor = system.monitor) (hprobes : next.probes = system.probes) :
    next.Apart := by
  have hnext : next.Unwatched := by rwa [Unwatched, hmonitor]
  have hnone : next.probes = [] := hprobes.trans (apart.alone hunwatched)
  refine ⟨.inr hnext, fun _ => hnext, fun _ => hnone, fun slot begun hphase => ?_, ?_⟩
  · rcases hnext with hidle | hover
    · simp [hphase] at hidle
    · simp [hphase] at hover
  · simp [hnone]

/-- The monitor begins no probe of a member that does not run. -/
theorem Apart.of_move (apart : system.Apart) (tidy : system.watching.Tidy)
    (hmove : system.watching.Move next.watching commands) (hcalls : next.calls = system.calls)
    (hbegin : system.Returned ∨ (system.Unwatched → next.Unwatched)) : next.Apart := by
  have hruns : ∀ {slot}, system.fleet.Runs slot → next.fleet.Runs slot :=
    fun before => before.aside hmove.aside
  have hreturned : system.Returned → next.Returned := fun before => by rwa [Returned, hcalls]
  refine ⟨?_, fun hstop => ?_, ?_, fun slot begun hphase => ?_, fun probe hprobe => ?_⟩
  · rcases hbegin with hbefore | hrests
    · exact .inl (hreturned hbefore)
    · exact apart.apart.imp hreturned hrests
  · have hbefore : system.fleet.stopFired = true := hmove.aside.stopFired ▸ hstop
    exact hmove.rests (apart.halted hbefore) hbefore
  · exact hmove.alone tidy apart.alone apart.halted
  · rcases hmove.running_of_noting hphase with hbefore | ⟨member, hmember, hrunning⟩
    · exact hruns (apart.seen slot begun hbefore)
    · refine hruns fun other hother => ?_
      rw [Option.some.inj (hother.symm.trans hmember), hrunning]
  · rcases hmove.probe_origin hprobe with ⟨origin, horigin, hslot, -⟩ | ⟨begun, _, hphase, -⟩
    · exact hruns (hslot ▸ apart.watched origin horigin)
    · exact hruns (apart.seen probe.slot begun hphase)

theorem Apart.step (apart : system.Apart) (attended : system.Attended)
    (hstep : system.step? event = some (next, commands))
    (hsequential : Sequential [⟨system, event, commands, next⟩]) : next.Apart := by
  obtain ⟨-, hunwatched, hreturned⟩ := hsequential
  have hcalls : event.GoesOn → next.Apart := by
    intro hgoes
    have hbusy : ¬ system.Returned := fun returned => by
      simp [returned.step?_eq_none hgoes] at hstep
    obtain ⟨hmonitor, hprobes⟩ := watching_of_goesOn hstep hgoes
    exact apart.of_unwatched (apart.apart.resolve_left hbusy) hmonitor hprobes
  have hnone : ∀ slot, system.Unwatched → system.watching.probe? slot = none := by
    intro slot hrests
    simp [Watching.probe?, watching, apart.alone hrests]
  cases event with
  | outside outer =>
      simp only [step?, Option.map_eq_some_iff, Prod.mk.injEq] at hstep
      obtain ⟨fleet, houtside, rfl, rfl⟩ := hstep
      have haside := Fleet.Aside.outside houtside
      exact ⟨apart.apart, fun hstop => apart.halted (haside.stopFired ▸ hstop), apart.alone,
        fun slot begun hphase => (apart.seen slot begun hphase).aside haside,
        fun probe hprobe => (apart.watched probe hprobe).aside haside⟩
  | call operation =>
      obtain ⟨rfl, -⟩ := Prod.mk.inj (Option.some.inj hstep)
      exact apart.of_unwatched (hunwatched _ List.mem_cons_self operation rfl) rfl rfl
  | advance | launched | ready | abandoned | ended => exact hcalls trivial
  | tick =>
      obtain ⟨watching, hwatching, rfl, rfl⟩ := exists_of_onWatching hstep
      exact apart.of_move attended.tidy (Watching.move_of_tick hwatching) rfl
        (.inl (hreturned _ List.mem_cons_self rfl))
  | survey =>
      obtain ⟨watching, hwatching, rfl, rfl⟩ := exists_of_onWatching hstep
      refine apart.of_move attended.tidy (Watching.move_of_survey hwatching) rfl (.inr ?_)
      rintro (hidle | hover)
      · simp [Watching.survey?, System.watching, hidle] at hwatching
      · simp [Watching.survey?, System.watching, hover] at hwatching
  | join =>
      obtain ⟨watching, hwatching, rfl, rfl⟩ := exists_of_onWatching hstep
      refine apart.of_move attended.tidy (Watching.move_of_join hwatching) rfl (.inr ?_)
      rintro (hidle | hover)
      · simp [Watching.join?, System.watching, hidle] at hwatching
      · simp [Watching.join?, System.watching, hover] at hwatching
  | quit =>
      obtain ⟨watching, hwatching, rfl, rfl⟩ := exists_of_onWatching hstep
      exact apart.of_move attended.tidy (Watching.move_of_quit hwatching) rfl
        (.inr fun _ => .inr (Watching.over_of_quit hwatching))
  | probe slot =>
      obtain ⟨watching, hwatching, rfl⟩ := exists_of_advance? hstep
      refine apart.of_move attended.tidy (Watching.move_of_advance hwatching) rfl (.inr ?_)
      intro hrests
      simp [Watching.advance?, hnone slot hrests] at hwatching
  | answered slot answer =>
      obtain ⟨watching, hwatching, rfl, rfl⟩ := exists_of_onWatching hstep
      refine apart.of_move attended.tidy (Watching.move_of_answered hwatching) rfl (.inr ?_)
      intro hrests
      simp [Watching.answered?, hnone slot hrests] at hwatching
  | drop slot =>
      obtain ⟨watching, hwatching, rfl, rfl⟩ := exists_of_onWatching hstep
      refine apart.of_move attended.tidy (Watching.move_of_drop hwatching) rfl (.inr ?_)
      intro hrests
      simp [Watching.drop?, hnone slot hrests] at hwatching

/-- Only a member that runs is probed, so nobody reports of one that does not. -/
theorem Apart.truthful (apart : system.Apart) (truthful : system.fleet.Truthful)
    (hstep : system.Step event commands next) : next.fleet.Truthful := by
  have haside : system.fleet.Aside next.fleet →
      (∀ slot, system.fleet.Quiet slot → (∀ probe ∈ system.probes, probe.slot ≠ slot) →
        next.fleet.Quiet slot) → next.fleet.Truthful := by
    intro haside hquiet slot member hmember hstopped
    obtain ⟨old, hold, hstanding⟩ := haside.exists_member? hmember
    have hbefore : old.running = false := (Member.running_eq hstanding).trans hstopped
    refine hquiet slot (fun other hother => ?_) (fun probe hprobe hslot => ?_) member hmember
    · obtain rfl := Option.some.inj (hold.symm.trans hother)
      exact truthful slot old hold hbefore
    · have hruns := apart.watched probe hprobe old (hslot ▸ hold)
      exact absurd (hbefore.symm.trans hruns) Bool.false_ne_true
  cases hstep with
  | turn hturn => exact hturn.truthful truthful
  | move hmove =>
      refine haside hmove.aside fun slot hquiet hnone => hquiet.move hmove ?_
      exact fun probe hprobe hslot => absurd hslot (hnone probe hprobe)
  | outside houtside =>
      exact haside (.outside houtside) fun slot hquiet _ => hquiet.outside houtside

/-- A running fleet whose calls and rounds come one after another. -/
structure Steady (system : System) : Prop where
  kept : system.Kept
  attended : system.Attended
  apart : system.Apart
  truthful : system.fleet.Truthful

theorem Steady.step (steady : system.Steady) (hstep : system.step? event = some (next, commands))
    (hsequential : Sequential [⟨system, event, commands, next⟩]) : next.Steady := by
  obtain ⟨-, hstepped⟩ := step_of_step? steady.kept.orderly hstep
  exact ⟨steady.kept.step hstep, steady.attended.step hstep,
    steady.apart.step steady.attended hstep hsequential,
    steady.apart.truthful steady.truthful hstepped⟩

end System

/-- In a fleet that was just started nothing has come yet, and all members run. -/
theorem Started.steady {settings : FleetSettings} {fleet : Fleet}
    (hstarted : Started settings fleet) (tick : Nanos) : (System.ofStart fleet tick).Steady where
  kept := System.kept_ofStart hstarted tick
  attended := hstarted.attended tick
  apart :=
    ⟨.inl (System.returned_ofStart fleet tick), fun _ => .inl rfl, fun _ => rfl,
      fun _ _ hphase => by simp [System.ofStart] at hphase, by simp [System.ofStart]⟩
  truthful := fun slot member hmember hstopped =>
    absurd (hstopped.symm.trans (hstarted.running hmember)) Bool.false_ne_true

theorem System.Steady.course {first last : System} {moments : List (Moment System Event)}
    (steady : first.Steady) (hcourse : Course System.step? first moments last)
    (hsequential : Sequential moments) : last.Steady := by
  induction hcourse with
  | start => exact steady
  | next _ hstep ih =>
      obtain ⟨hearly, hlast⟩ := hsequential.of_append
      exact (ih hearly).step hstep hlast

end FleetControl
