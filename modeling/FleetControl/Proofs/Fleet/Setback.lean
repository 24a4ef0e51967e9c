import FleetControl.Proofs.Fleet.Identity
import FleetControl.Proofs.Fleet.Restart
import FleetControl.Proofs.Fleet.Unobserved

/-!
# Restarts that fail

A restart may fail because the fleet was shut down, because the engine refuses, because the process
never becomes ready, or because the root signal fires. In none of these cases is it a transition of
its member: the slots, the flags, the counters and the cooldown are what they were, and a process
that came of it is gone.
-/

namespace FleetControl

open EngineNote

/-- Only a transition is counted as one. -/
theorem Turn.transitions_eq_of_unmarked {fleet after : Fleet} {underway later : Option Call}
    {heard : List EngineNote} {commands : List Command}
    (hturn : Turn fleet underway heard commands none after later) :
    after.metrics.transitions = fleet.metrics.transitions := by
  cases hturn with
  | rest | signal | coolStop | coolRestart | empty | vanish | launch | refuse | hand | giveUp
  | ended | pass | clearEnded | cleared => rfl

/-- The call that is under way is the same one until it returns. -/
theorem Turn.id_eq {fleet after : Fleet} {call later : Call} {heard : List EngineNote}
    {commands : List Command} {mark : Option Mark}
    (hturn : Turn fleet (some call) heard commands mark after (some later)) :
    later.id = call.id := by
  cases hturn with
  | rest | signal | stop | launch | hand | giveUp | pass | clear | clearEnded => rfl

/-- Where a process that was handed out last is gone in the end, all notes about it came after
that. -/
theorem EngineNote.about_eq_gone_of_append {slot : Nat} {handle : Handle}
    {notes more : List EngineNote} (hgone : about handle (notes ++ more) = gone slot handle)
    (hhanded : .handed slot handle ∈ more) : about handle more = gone slot handle := by
  rw [about_append] at hgone
  cases hbefore : about handle notes with
  | nil => rwa [hbefore, List.nil_append] at hgone
  | cons note rest =>
      -- Only the first note says that the process was handed out.
      have hmem := List.mem_append_right rest (handed_mem_about.mpr hhanded)
      rw [hbefore, List.cons_append, gone, torn, fresh] at hgone
      rw [(List.cons.inj hgone).2] at hmem
      simp at hmem

namespace System

variable {system next first last : System} {event : Event} {commands : List Command}
  {moments : List (Moment System Event)} {id slot : Nat} {phase : CallPhase} {error : Error}

/-! ### Without transitions -/

/-- No transition of any member is recorded. -/
def Still (moments : List (Moment System Event)) : Prop :=
  ∀ moment ∈ moments, moment.before.recorded? moment.event = none

theorem still_singleton {moment : Moment System Event} :
    Still [moment] ↔ moment.before.recorded? moment.event = none := by
  simp [Still]

theorem Still.unmarked (still : Still moments) (slot : Nat) : Unmarked slot moments := by
  intro moment hmem kind
  simp [still moment hmem]

theorem transitions_of_step? (orderly : system.Orderly)
    (hstep : system.step? event = some (next, commands)) (hnone : system.recorded? event = none) :
    next.fleet.metrics.transitions = system.fleet.metrics.transitions := by
  obtain ⟨-, hstepped⟩ := step_of_step? orderly hstep
  cases hstepped with
  | turn hturn => exact (hnone ▸ hturn).transitions_eq_of_unmarked
  | move hmove => exact hmove.transitions_eq
  | outside houtside => exact Fleet.transitions_outside houtside

theorem Still.course (still : Still moments) (orderly : first.Orderly)
    (hcourse : Course step? first moments last) :
    last.fleet.slots = first.fleet.slots ∧
      last.fleet.metrics.transitions = first.fleet.metrics.transitions := by
  induction hcourse with
  | start => exact ⟨rfl, rfl⟩
  | next earlier hstep ih =>
      obtain ⟨hearly, hlast⟩ := List.forall_mem_append.mp still
      obtain ⟨hslots, htransitions⟩ := ih hearly
      have horderly := (orderly_size_of_course orderly earlier).1
      have hnone := still_singleton.mp hlast
      exact ⟨(slots_eq_of_step? horderly hstep hnone).trans hslots,
        (transitions_of_step? horderly hstep hnone).trans htransitions⟩

theorem Unobserved.course (unobserved : first.Unobserved slot) (still : Still moments)
    (hcourse : Course step? first moments last) :
    last.Unobserved slot ∧ last.fleet.Resembles first.fleet slot := by
  induction hcourse with
  | start => exact ⟨unobserved, .refl _ slot⟩
  | next earlier hstep ih =>
      obtain ⟨hearly, hlast⟩ := List.forall_mem_append.mp still
      obtain ⟨hbefore, hresembles⟩ := ih hearly
      obtain ⟨hafter, hsame⟩ := hbefore.step hstep (still_singleton.mp hlast)
      exact ⟨hafter, hsame.trans hresembles⟩

/-- In this moment a restart is under way or just takes the lock, and no transition is recorded. -/
structure Attempts (id slot : Nat) (moment : Moment System Event) : Prop where
  call : ∃ phase, moment.before.calling.call? id = some ⟨id, .restart slot, phase⟩ ∧
    (phase.isUnderway = true ∨ moment.event = .advance id)
  unmarked : moment.before.recorded? moment.event = none

/-- A restart that has taken the lock has returned later, or has been under way all the time. -/
theorem restart_of_course (orderly : first.Orderly)
    (hcall : first.calling.call? id = some ⟨id, .restart slot, phase⟩)
    (hphase : phase.isUnderway = true ∨ ∃ result, phase = .finished result)
    (hcourse : Course step? first moments last) :
    ∃ later, last.calling.call? id = some ⟨id, .restart slot, later⟩ ∧
      (phase.isUnderway = true ∧ later.isUnderway = true ∧
          (∀ moment ∈ moments, Attempts id slot moment) ∨
        ∃ result, later = .finished result) := by
  induction hcourse with
  | start => exact ⟨phase, hcall, hphase.imp_left fun hgoes => ⟨hgoes, hgoes, by simp⟩⟩
  | next earlier hstep ih =>
      have horderly := (orderly_size_of_course orderly earlier).1
      obtain ⟨later, hlater, ⟨hgoes, hstill, hattempts⟩ | ⟨result, rfl⟩⟩ := ih
      · obtain ⟨next, hnext, hstate, hnone⟩ := restart_of_step? horderly hlater hstill hstep
        refine ⟨next, hnext, hstate.imp_left fun hagain => ⟨hgoes, hagain, ?_⟩⟩
        refine List.forall_mem_append.mpr ⟨hattempts, List.forall_mem_singleton.mpr ?_⟩
        refine ⟨⟨later, hlater, .inl hstill⟩, hnone ?_⟩
        rintro rfl
        exact absurd hagain Bool.false_ne_true
      · exact ⟨_, call?_of_finished horderly hlater hstep, .inr ⟨result, rfl⟩⟩

/-- A restart takes the lock in the first of these moments, and returns an error in the last one. -/
structure Setback (first : System) (id slot : Nat) (error : Error)
    (moments : List (Moment System Event)) (last : System) : Prop where
  course : Course step? first moments last
  waits : first.calling.call? id = some ⟨id, .restart slot, .queued⟩
  takes : moments.head?.map (·.event) = some (.advance id)
  returns : ∃ moment, moments.getLast? = some moment ∧
    moment.Returns id (.restart slot) (.error error)

/-- The call with this number is a restart that returned an error. -/
theorem call?_of_returns (orderly : next.Orderly)
    (hreturns : Moment.Returns ⟨system, event, commands, next⟩ id (.restart slot) (.error error)) :
    next.calling.call? id = some ⟨id, .restart slot, .finished (.error error)⟩ := by
  cases hcall : next.calling.call? id with
  | none =>
      have hnone := List.find?_eq_none.mp hcall _ hreturns.after
      simp at hnone
  | some call =>
      rw [orderly.eq_of_id_eq (Calling.call?_mem hcall) hreturns.after (Calling.call?_id hcall)]

namespace Setback

/-- A restart that takes the lock attempts what it is to do. -/
theorem attempts_of_takes {moment : Moment System Event} (hevent : moment.event = .advance id)
    (hwaits : moment.before.calling.call? id = some ⟨id, .restart slot, .queued⟩) :
    Attempts id slot moment := by
  refine ⟨⟨_, hwaits, .inr hevent⟩, ?_⟩
  rw [hevent]
  simp [recorded?, Calling.recorded?, hwaits]

/-- A restart fails as soon as it has the lock, or else it has been under way until it fails. -/
theorem cases (setback : first.Setback id slot error moments last) (orderly : first.Orderly) :
    (∃ commands, moments = [⟨first, .advance id, commands, last⟩]) ∨
    ∃ early final phase, moments = early ++ [final] ∧ first.fleet.process? slot = none ∧
      (∀ moment ∈ early, Attempts id slot moment) ∧ Course step? first early final.before ∧
      final.before.calling.call? id = some ⟨id, .restart slot, phase⟩ ∧
      phase.isUnderway = true ∧ step? final.before final.event = some (last, final.commands) ∧
      last.calling.call? id = some ⟨id, .restart slot, .finished (.error error)⟩ := by
  obtain ⟨hcourse, hwaits, htakes, final, hfinal, hreturns⟩ := setback
  obtain ⟨early, rfl⟩ := List.getLast?_eq_some_iff.mp hfinal
  obtain ⟨hearly, hstep, rfl⟩ := hcourse.of_concat
  cases early with
  | nil =>
      obtain ⟨before, event, commands, after⟩ := final
      obtain rfl : event = .advance id := Option.some.inj htakes
      obtain rfl : before = first := hearly.eq_of_nil
      exact .inl ⟨commands, rfl⟩
  | cons lock more =>
      obtain ⟨rfl, hlock, hmore⟩ := hearly.of_cons
      have hevent : lock.event = .advance id := Option.some.inj htakes
      obtain ⟨taken, htaken, hrestarts⟩ := restarts_of_advance orderly hwaits (hevent ▸ hlock)
      have hnext := (step_of_step? orderly hlock).1
      obtain ⟨later, hlater, ⟨hgoes, hunderway, hattempts⟩ | ⟨result, rfl⟩⟩ :=
        restart_of_course hnext htaken hrestarts.isUnderway_or_finished hmore
      · have horderly := (orderly_size_of_course orderly hearly).1
        have hlast := call?_of_returns (step_of_step? horderly hstep).1 hreturns
        exact .inr ⟨lock :: more, final, later, rfl, hrestarts.process?_eq_none hgoes,
          List.forall_mem_cons.mpr ⟨attempts_of_takes hevent hwaits, hattempts⟩, hearly, hlater,
          hunderway, hstep, hlast⟩
      · exact absurd rfl (hreturns.before _ (Calling.call?_mem hlater) rfl result)

theorem attempts (setback : first.Setback id slot error moments last) (orderly : first.Orderly) :
    ∀ moment ∈ moments, Attempts id slot moment := by
  rcases setback.cases orderly with ⟨commands, rfl⟩ |
    ⟨early, final, phase, rfl, -, hearly, hcourse, hcall, hunderway, hstep, hlast⟩
  · exact List.forall_mem_singleton.mpr (attempts_of_takes rfl setback.waits)
  · have horderly := (orderly_size_of_course orderly hcourse).1
    obtain ⟨later, hlater, -, hnone⟩ := restart_of_step? horderly hcall hunderway hstep
    obtain rfl : later = .finished (.error error) :=
      congrArg Call.phase (Option.some.inj (hlater.symm.trans hlast))
    refine List.forall_mem_append.mpr ⟨hearly, List.forall_mem_singleton.mpr ?_⟩
    exact ⟨⟨phase, hcall, .inl hunderway⟩, hnone (by simp)⟩

theorem still (setback : first.Setback id slot error moments last) (orderly : first.Orderly) :
    Still moments :=
  fun moment hmem => (setback.attempts orderly moment hmem).unmarked

/-- The call itself changes nothing of the fleet, but for what the engine gives out. -/
theorem touches (setback : first.Setback id slot error moments last) (orderly : first.Orderly)
    {moment : Moment System Event} (hmoment : moment ∈ moments)
    (hcaller : moment.event.caller? = some id) :
    moment.after.fleet = moment.before.fleet ∨
      ∃ config, moment.event = .launched id (.ok config) ∧
        moment.after.fleet = moment.before.fleet.hand slot config := by
  obtain ⟨⟨phase, hcall, -⟩, hnone⟩ := setback.attempts orderly moment hmoment
  obtain ⟨early, late, -, hearly, hstep, -⟩ := setback.course.cut hmoment
  have horderly := (orderly_size_of_course orderly hearly).1
  obtain ⟨later, -, hrestarts⟩ := restarts_of_step? horderly hcall hcaller hstep
  rcases hrestarts.fleet_cases with hsame | hhanded | ⟨handle, hready, rfl⟩
  · exact .inl hsame
  · exact .inr hhanded
  · simp [hready, recorded?, Calling.recorded?, hcall] at hnone

/-- Whatever the engine has handed out meanwhile is gone. -/
theorem gone (setback : first.Setback id slot error moments last) (kept : first.Kept)
    {other : Nat} {handle : Handle} (hhanded : .handed other handle ∈ System.notes moments) :
    about handle (System.notes moments) = EngineNote.gone other handle := by
  obtain ⟨notes, sound⟩ := kept.1
  rcases setback.cases kept.orderly with ⟨commands, rfl⟩ |
    ⟨early, final, phase, rfl, -, -, hcourse, hcall, hunderway, hstep, hlast⟩
  · have hsilent : EngineNote.handed other handle ∈ ofCommands commands := by
      simpa [System.notes, heard, Calling.heard] using hhanded
    exact absurd hsilent (handed_not_mem_ofCommands other handle commands)
  · have horderly := (orderly_size_of_course kept.orderly hcourse).1
    have hthis := horderly.underway?_eq (Calling.call?_mem hcall) hunderway
    obtain ⟨hlater, hstepped⟩ := step_of_step? horderly hstep
    have hidle : last.underway? = none := by
      refine Option.eq_none_iff_forall_ne_some.mpr fun call hfound => ?_
      -- Whoever is under way now is the restart, which has returned.
      have hid : call.id = id := by
        cases hstepped with
        | turn hturn =>
            rw [hfound, show final.before.underway? = _ from hthis] at hturn
            exact hturn.id_eq
        | move _ _ hsame | outside _ _ _ _ hsame =>
            rw [← Option.some.inj ((hsame.trans hthis).symm.trans hfound)]
      have hreturned := hlater.eq_of_id_eq (Calling.underway?_mem hfound)
        (Calling.call?_mem hlast) hid
      have hgoes := Calling.underway?_isUnderway hfound
      rw [hreturned] at hgoes
      exact absurd hgoes Bool.false_ne_true
    have hslots := ((setback.still kept.orderly).course kept.orderly setback.course).1
    rcases (sound.course setback.course).settled hidle (List.mem_append_right _ hhanded) with
      ⟨hfresh, hplace⟩ | ⟨hgone, -⟩
    · -- It would have been in the slot before, and handed out twice.
      have hplaced := sound.booked.ledger.placed (hslots ▸ (hplace other).mpr rfl)
      have hmem := handed_mem_about.mpr hhanded
      rw [about_append, hplaced, List.append_right_eq_self] at hfresh
      exact absurd (hfresh ▸ hmem) List.not_mem_nil
    · exact about_eq_gone_of_append hgone hhanded

/-- What is shown of the member stays, where nobody has noted its last transition. -/
theorem resembles (setback : first.Setback id slot error moments last) (kept : first.Kept)
    (hunnoted : first.watching.Unnoted slot) : last.fleet.Resembles first.fleet slot := by
  have orderly := kept.orderly
  rcases setback.cases orderly with ⟨commands, rfl⟩ | ⟨-, -, -, -, hprocess, -⟩
  · rcases setback.touches orderly List.mem_cons_self rfl with hsame | ⟨config, hevent, -⟩
    · rw [show last.fleet = first.fleet from hsame]
      exact .refl _ slot
    · cases hevent
  · have hstopped : ∀ member, first.fleet.member? slot = some member → member.running = false :=
      fun member hmember => kept.2.stopped hmember hprocess
    exact (Unobserved.course ⟨orderly, hstopped, hunnoted⟩ (setback.still orderly)
      setback.course).2

end Setback

/-! ### What follows -/

end System

namespace System

variable {system first middle last : System} {moments : List (Moment System Event)} {id slot : Nat}
  {fleet : Fleet} {handle : Handle}

end System

end FleetControl
