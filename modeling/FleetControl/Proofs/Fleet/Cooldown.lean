import FleetControl.Proofs.Fleet.Records
import FleetControl.Proofs.Fleet.Stopping
import Mathlib.Data.List.Chain

/-!
# The cooldown between transitions

A call waits for the end of its member's cooldown, plus a margin, before it does anything. It holds
the fleet lock all the while, so no transition comes in between, and time only goes on. So each
transition that a stop or a restart records comes after the cooldown of the one before it.
-/

namespace FleetControl

/-- The transition of a slot's member has been over for longer than the cooldown at this time. -/
def Fleet.Cool (fleet : Fleet) (slot : Nat) (time : Nanos) : Prop :=
  ∀ member, fleet.member? slot = some member →
    member.transition.instant + fleet.interval < time

/-- A call that has waited for a cooldown acts only when it is over. -/
def Call.Paced (call : Call) (fleet : Fleet) : Prop :=
  match call.operation, call.phase with
  | .stop slot, .cooling due => fleet.Cool slot due
  | .restart slot, .cooling due => fleet.Cool slot due
  | .restart slot, .launching => fleet.Cool slot fleet.clock.instant
  | .restart slot, .awaiting _ => fleet.Cool slot fleet.clock.instant
  | _, _ => True

/-- Time goes on, and the call that is under way keeps to the cooldown of its member. -/
structure Timed (fleet : Fleet) (underway : Option Call) : Prop where
  dated : fleet.Dated
  paced : ∀ call, underway = some call → call.Paced fleet

/-- What is left of a cooldown ends, with the margin, after the whole of it. -/
theorem Fleet.Dated.cool_cooledAt {fleet : Fleet} (hdated : fleet.Dated) (slot : Nat) :
    fleet.Cool slot (Calling.cooledAt fleet slot) := by
  have hover : ∀ past now interval : Nat, interval < now - past → past + interval < now := by
    omega
  -- What is left is counted from now on, and only the margin makes the inequality strict.
  have hleft : ∀ past now interval margin : Nat, past ≤ now → 0 < margin →
      ¬ interval < now - past → past + interval < now + (interval - (now - past) + margin) := by
    omega
  intro member hmember
  have hpast := hdated slot member hmember
  simp only [Calling.cooledAt, hmember, Option.bind_some, Member.cooldownRemaining]
  by_cases hcool : fleet.interval < fleet.clock.instant - member.transition.instant
  · rw [if_pos hcool]
    exact hover _ _ _ hcool
  · rw [if_neg hcool]
    exact hleft _ _ _ _ hpast (by decide) hcool

theorem Fleet.Cool.mono {fleet : Fleet} {slot : Nat} {time later : Nanos}
    (hcool : fleet.Cool slot time) (hle : time ≤ later) : fleet.Cool slot later :=
  fun member hmember => Nat.lt_of_lt_of_le (hcool member hmember) hle

namespace Timed

variable {fleet next : Fleet} {underway later : Option Call} {heard : List EngineNote}
  {commands : List Command} {mark : Option Mark}

/-- Every turn of the calls keeps to the cooldowns. -/
theorem turn (timed : Timed fleet underway)
    (hturn : Turn fleet underway heard commands mark next later) : Timed next later := by
  refine ⟨fun slot member hmember => ?_, ?_⟩
  · rw [hturn.clock_eq]
    obtain ⟨old, hold, hturned⟩ := hturn.exists_member? hmember
    cases hturned with
    | stopped | restarted => exact Nat.le_refl _
    | kept => exact timed.dated slot old hold
  · cases hturn with
    | rest => exact timed.paced
    | signal => exact timed.paced
    | coolStop | coolRestart =>
        rintro _ ⟨⟩
        exact timed.dated.cool_cooledAt _
    | launch hdue =>
        rintro _ ⟨⟩
        have hcool : fleet.Cool _ _ := timed.paced _ rfl
        exact hcool.mono hdue
    | @hand id slot config =>
        rintro _ ⟨⟩ member hmember
        have hcool : fleet.Cool slot fleet.clock.instant := timed.paced _ rfl
        have hmember := (fleet.member?_changeMember_self slot (·.setConfig config)).symm.trans
          hmember
        obtain ⟨old, hold, rfl⟩ := Option.map_eq_some_iff.mp hmember
        exact hcool old hold
    | empty | stop | giveUp | pass | clear | clearEnded =>
        rintro _ ⟨⟩
        trivial
    | vanish | refuse | ready | ended | cleared => simp

theorem aside (timed : Timed fleet underway) (haside : fleet.Aside next) :
    Timed next underway := by
  have hcool : ∀ slot time, fleet.Cool slot time → next.Cool slot time := by
    intro slot time hcool member hmember
    obtain ⟨old, hold, hstanding⟩ := haside.exists_member? hmember
    rw [← Member.transition_eq hstanding, haside.interval]
    exact hcool old hold
  refine ⟨haside.dated timed.dated, fun call hcall => ?_⟩
  have hpaced := timed.paced call hcall
  unfold Call.Paced at hpaced ⊢
  split at hpaced
  next => exact hcool _ _ hpaced
  next => exact hcool _ _ hpaced
  next => exact hcool _ _ (hpaced.mono haside.clock)
  next => exact hcool _ _ (hpaced.mono haside.clock)
  next => trivial

/-- A stop or a restart records a transition only after the cooldown of the last one. -/
theorem cool_of_turn (timed : Timed fleet underway) {slot : Nat} {kind : TransitionKind}
    (hturn : Turn fleet underway heard commands (some (slot, kind)) next later)
    (hkind : kind ≠ .shutdown) : fleet.Cool slot fleet.clock.instant := by
  cases hturn with
  | stop hdue =>
      have hcool : fleet.Cool _ _ := timed.paced _ rfl
      exact hcool.mono hdue
  | clear => exact absurd rfl hkind
  | ready => exact timed.paced _ rfl

/-- Every step keeps to the cooldowns. -/
theorem step {system next : System} {event : Event} {commands : List Command}
    (timed : Timed system.fleet system.underway?) (hstep : system.Step event commands next) :
    Timed next.fleet next.underway? := by
  cases hstep with
  | turn hturn => exact timed.turn hturn
  | move hmove _ hunderway =>
      rw [hunderway]
      exact timed.aside hmove.aside
  | outside houtside _ _ _ hunderway =>
      rw [hunderway]
      exact timed.aside (.outside houtside)

end Timed

/-- The time at which a stop or a restart recorded a transition of a slot's member. -/
def Moment.turnover? (slot : Nat) (moment : Moment System Event) : Option Nanos :=
  match moment.before.recorded? moment.event with
  | some (other, kind) =>
      if other = slot ∧ kind ≠ .shutdown then
        (moment.after.fleet.member? slot).map (·.transition.instant)
      else none
  | none => none

/-- All of these times, in order. -/
def turnovers (slot : Nat) (moments : List (Moment System Event)) : List Nanos :=
  moments.filterMap (Moment.turnover? slot)

section Turnover

variable {slot : Nat} {moment : Moment System Event}

theorem turnovers_concat (slot : Nat) (moments : List (Moment System Event))
    (moment : Moment System Event) :
    turnovers slot (moments ++ [moment]) =
      turnovers slot moments ++ (Moment.turnover? slot moment).toList := by
  rw [turnovers, List.filterMap_append, ← turnovers]
  cases hturnover : Moment.turnover? slot moment <;> simp [hturnover]

theorem Moment.turnover?_of_recorded {kind : TransitionKind} {member : Member}
    (hmark : moment.before.recorded? moment.event = some (slot, kind)) (hkind : kind ≠ .shutdown)
    (hmember : moment.after.fleet.member? slot = some member) :
    Moment.turnover? slot moment = some member.transition.instant := by
  simp [turnover?, hmark, hkind, hmember]

theorem Moment.turnover?_of_shutdown
    (hmark : moment.before.recorded? moment.event = some (slot, .shutdown)) :
    Moment.turnover? slot moment = none := by
  simp [turnover?, hmark]

theorem Moment.turnover?_of_unmarked
    (hmark : ∀ kind, moment.before.recorded? moment.event ≠ some (slot, kind)) :
    Moment.turnover? slot moment = none := by
  cases hrecorded : moment.before.recorded? moment.event with
  | none => simp [turnover?, hrecorded]
  | some mark =>
      obtain ⟨other, kind⟩ := mark
      have hother : other ≠ slot := by
        rintro rfl
        exact hmark kind hrecorded
      simp [turnover?, hrecorded, hother]

end Turnover

/-- The transitions of a slot's member, from the one at `origin` on, are further apart than the
cooldown, and none of them comes after the last one in the record. -/
structure Spaced (interval : Nanos) (slot : Nat) (origin : Nanos)
    (moments : List (Moment System Event)) (last : System) : Prop where
  timed : Timed last.fleet last.underway?
  orderly : last.Orderly
  interval_eq : last.fleet.interval = interval
  apart : (origin :: turnovers slot moments).IsChain fun earlier later => earlier + interval < later
  record : ∃ member, last.fleet.member? slot = some member ∧
    ∀ time ∈ origin :: turnovers slot moments, time ≤ member.transition.instant

namespace Spaced

variable {interval origin : Nanos} {slot : Nat} {moments : List (Moment System Event)}
  {system next : System} {event : Event} {commands : List Command}

theorem interval_eq_of_step (hstep : system.Step event commands next) :
    next.fleet.interval = system.fleet.interval := by
  cases hstep with
  | turn hturn => exact hturn.interval_eq
  | move hmove => exact hmove.aside.interval
  | outside houtside => exact (Fleet.Aside.outside houtside).interval

/-- A moment in which no transition is counted, though a shutdown may record one. -/
theorem pass (spaced : Spaced interval slot origin moments system)
    {moment : Moment System Event} (hnone : Moment.turnover? slot moment = none)
    (htimed : Timed next.fleet next.underway?) (horderly : next.Orderly)
    (hinterval : next.fleet.interval = interval) {member current : Member}
    (hmember : system.fleet.member? slot = some member)
    (hcurrent : next.fleet.member? slot = some current)
    (hlater : member.transition.instant ≤ current.transition.instant) :
    Spaced interval slot origin (moments ++ [moment]) next := by
  have hsame : turnovers slot (moments ++ [moment]) = turnovers slot moments := by
    rw [turnovers_concat, hnone, Option.toList_none, List.append_nil]
  obtain ⟨last, hlast, hbound⟩ := spaced.record
  obtain rfl := Option.some.inj (hmember.symm.trans hlast)
  refine ⟨htimed, horderly, hinterval, hsame ▸ spaced.apart, current, hcurrent, ?_⟩
  intro time htime
  rw [hsame] at htime
  exact Nat.le_trans (hbound time htime) hlater

/-- A moment in which a stop or a restart records a transition after the cooldown. -/
theorem count (spaced : Spaced interval slot origin moments system)
    {moment : Moment System Event} {member current : Member}
    (hsome : Moment.turnover? slot moment = some current.transition.instant)
    (htimed : Timed next.fleet next.underway?) (horderly : next.Orderly)
    (hinterval : next.fleet.interval = interval)
    (hmember : system.fleet.member? slot = some member)
    (hcurrent : next.fleet.member? slot = some current)
    (hcool : member.transition.instant + interval < current.transition.instant) :
    Spaced interval slot origin (moments ++ [moment]) next := by
  have hmore : turnovers slot (moments ++ [moment]) =
      turnovers slot moments ++ [current.transition.instant] := by
    rw [turnovers_concat, hsome, Option.toList_some]
  obtain ⟨last, hlast, hbound⟩ := spaced.record
  obtain rfl := Option.some.inj (hmember.symm.trans hlast)
  refine ⟨htimed, horderly, hinterval, ?_, current, hcurrent, ?_⟩
  · rw [hmore, ← List.cons_append]
    apply spaced.apart.append (List.isChain_singleton _)
    intro time htime later hhead
    obtain rfl : current.transition.instant = later := by simpa using hhead
    have hle := hbound time (List.mem_of_getLast? htime)
    exact Nat.lt_of_le_of_lt (Nat.add_le_add_right hle interval) hcool
  · intro time htime
    rw [hmore, ← List.cons_append, List.mem_append, List.mem_singleton] at htime
    rcases htime with htime | rfl
    · have hle := Nat.le_trans (hbound time htime) (Nat.le_add_right _ interval)
      exact Nat.le_of_lt (Nat.lt_of_le_of_lt hle hcool)
    · exact Nat.le_refl _

/-- One more step leaves the transitions as far apart. -/
theorem step (spaced : Spaced interval slot origin moments system)
    (hstep : system.step? event = some (next, commands)) :
    Spaced interval slot origin (moments ++ [⟨system, event, commands, next⟩]) next := by
  obtain ⟨horderly, hstepped⟩ := System.step_of_step? spaced.orderly hstep
  obtain ⟨member, hmember, -⟩ := spaced.record
  have hslot : slot < next.fleet.members.length := hstepped.size_eq ▸ Fleet.slot_lt hmember
  obtain ⟨current, hcurrent⟩ := Fleet.exists_member? hslot
  have hinterval := (interval_eq_of_step hstepped).trans spaced.interval_eq
  have htimed := spaced.timed.step hstepped
  by_cases hmark : ∃ kind, system.recorded? event = some (slot, kind)
  · obtain ⟨kind, hmark⟩ := hmark
    have hturn := hstepped.turn_of_recorded hmark
    obtain ⟨old, hold, hturned⟩ := hturn.exists_member? hcurrent
    obtain rfl := Option.some.inj (hmember.symm.trans hold)
    -- A shutdown does not wait for the cooldown, so its transitions are not counted.
    by_cases hkind : kind = .shutdown
    · subst hkind
      exact spaced.pass (Moment.turnover?_of_shutdown hmark) htimed horderly hinterval hmember
        hcurrent (hturned.transition_le (spaced.timed.dated slot member hmember))
    · have hcool := spaced.timed.cool_of_turn hturn hkind member hmember
      rw [spaced.interval_eq, ← hturned.transition_eq] at hcool
      exact spaced.count (Moment.turnover?_of_recorded hmark hkind hcurrent) htimed horderly
        hinterval hmember hcurrent hcool
  · have hnone : ∀ kind, system.recorded? event ≠ some (slot, kind) := by
      intro kind hkind
      exact hmark ⟨kind, hkind⟩
    obtain ⟨old, hold, htransition, -⟩ := hstepped.standing_eq hnone hcurrent
    obtain rfl := Option.some.inj (hmember.symm.trans hold)
    exact spaced.pass (Moment.turnover?_of_unmarked hnone) htimed horderly hinterval hmember
      hcurrent (Nat.le_of_eq (congrArg Clock.instant htransition.symm))

/-- The transitions of a whole course are as far apart. -/
theorem course {first last : System} (timed : Timed first.fleet first.underway?)
    (orderly : first.Orderly) {member : Member} (hmember : first.fleet.member? slot = some member)
    (hcourse : Course System.step? first moments last) :
    Spaced first.fleet.interval slot member.transition.instant moments last := by
  induction hcourse with
  | start =>
      refine ⟨timed, orderly, rfl, List.isChain_singleton _, member, hmember, ?_⟩
      simp [turnovers]
  | next _ hstep ih => exact ih.step hstep

end Spaced

/-- Spans of time below this one fit the words in which they are counted. -/
def spanLimit : Nanos := Nanos.ofSeconds UInt64.size

/-- What is left of a cooldown, with the margin, fits its words. -/
theorem left_lt_spanLimit {settings : FleetSettings} {member : Member} {now left : Nanos}
    (hleft : member.cooldownRemaining settings.fleet.stopStartInterval now = some left) :
    left + cooldownMargin < spanLimit := by
  have hinterval : settings.fleet.stopStartInterval ≤ Nanos.ofMillis UInt64.size := by
    have hmillis := settings.fleet.stopStartIntervalMs.toNat_lt
    refine Nat.mul_le_mul_right _ (Nat.max_le.mpr ⟨Nat.le_of_lt hmillis, by decide⟩)
  have hle : left ≤ settings.fleet.stopStartInterval := by
    unfold Member.cooldownRemaining at hleft
    dsimp only at hleft
    split at hleft
    next => simp at hleft
    next =>
      obtain rfl := Option.some.inj hleft
      exact Nat.sub_le ..
  exact Nat.lt_of_le_of_lt (Nat.add_le_add_right (Nat.le_trans hle hinterval) _) (by decide)

/-- A fleet that was just started is timed. -/
theorem Started.timed {settings : FleetSettings} {fleet : Fleet}
    (hstarted : Started settings fleet) : Timed fleet none :=
  ⟨hstarted.fledgling.dated, by simp⟩

/-- In a started fleet, whatever is called and whenever: the transitions that stops and restarts
record of a member, and the one that its start recorded, are further apart than the cooldown.
Nothing else moves the time of a member's last transition, shutdowns apart. And whenever what is
left of a cooldown is asked for, the last transition is not in the future, no more is taken off the
cooldown than it has, and with its margin the rest fits its words. -/
theorem transitions_keep_cooldown {settings : FleetSettings} {fleet : Fleet}
    (hstarted : Started settings fleet) {tick : Nanos} {moments : List (Moment System Event)}
    {last : System} (hcourse : Course System.step? (System.ofStart fleet tick) moments last)
    {slot : Nat} {member : Member} (hmember : fleet.member? slot = some member) :
    ((member.transition.instant :: turnovers slot moments).IsChain fun earlier later =>
      earlier + Nanos.ofMillis (max settings.fleet.stopStartIntervalMs.toNat 2000) < later) ∧
    (∀ moment ∈ moments, (∀ kind, moment.before.recorded? moment.event ≠ some (slot, kind)) →
      (moment.after.fleet.member? slot).map (·.transition.instant) =
        (moment.before.fleet.member? slot).map (·.transition.instant)) ∧
    ∃ current, last.fleet.member? slot = some current ∧
      current.transition.instant ≤ last.fleet.clock.instant ∧
      ∀ left, current.cooldownRemaining last.fleet.interval last.fleet.clock.instant = some left →
        last.fleet.clock.instant - current.transition.instant ≤ last.fleet.interval ∧
        left + cooldownMargin < spanLimit := by
  have hinterval : fleet.interval = settings.fleet.stopStartInterval :=
    hstarted.fledgling.interval_eq
  have spaced := Spaced.course hstarted.timed (System.orderly_ofStart fleet tick) hmember hcourse
  refine ⟨?_, ?_, ?_⟩
  · have hapart := spaced.apart
    rwa [show (System.ofStart fleet tick).fleet.interval = _ from hinterval] at hapart
  · intro moment hmoment hmark
    -- The record before this moment is the one that the course up to it has left.
    obtain ⟨early, late, -, hearly, hstep, -⟩ := hcourse.cut hmoment
    have before := Spaced.course hstarted.timed (System.orderly_ofStart fleet tick) hmember hearly
    obtain ⟨-, hstepped⟩ := System.step_of_step? before.orderly hstep
    obtain ⟨current, hcurrent, -⟩ := (before.step hstep).record
    obtain ⟨old, hold, htransition, -⟩ := hstepped.standing_eq hmark hcurrent
    rw [hcurrent, hold, Option.map_some, Option.map_some, htransition]
  · obtain ⟨current, hcurrent, -⟩ := spaced.record
    refine ⟨current, hcurrent, spaced.timed.dated slot current hcurrent, fun left hleft => ?_⟩
    have hlast : last.fleet.interval = settings.fleet.stopStartInterval :=
      spaced.interval_eq.trans hinterval
    rw [hlast] at hleft ⊢
    refine ⟨?_, left_lt_spanLimit hleft⟩
    unfold Member.cooldownRemaining at hleft
    dsimp only at hleft
    split at hleft
    next => simp at hleft
    next hnot => exact Nat.not_lt.mp hnot

/-- The member of the smallest fleet is stopped after its cooldown. -/
theorem solo_transitions_keep_cooldown :
    ∃ fleet member moments last, Started soloSettings fleet ∧ fleet.member? 0 = some member ∧
      Course System.step? (System.ofStart fleet 0) moments last ∧ turnovers 0 moments ≠ [] ∧
      (member.transition.instant :: turnovers 0 moments).IsChain fun earlier later =>
        earlier + Nanos.ofMillis 2000 < later := by
  obtain ⟨fleet, member, hstarted, hmember⟩ := started_solo
  have hslot := Fleet.slot_lt hmember
  obtain ⟨handle, hprocess⟩ := hstarted.process? hmember
  obtain ⟨moments, last, hcourse, hmark⟩ := System.course_stopped 0 hslot hprocess
  obtain ⟨hchain, -, current, hcurrent, -⟩ :=
    transitions_keep_cooldown hstarted hcourse hmember
  refine ⟨fleet, member, _, last, hstarted, hmember, hcourse, ?_, hchain⟩
  simp [turnovers, Moment.turnover?, hmark, hcurrent]

end FleetControl
