import FleetControl.Proofs.Fleet.Cooldown

/-!
# Stale observations

Whoever reports what a member answered carries the time of the transition that was in the record
when it began. As two transitions are never recorded at the same time, a report that began before
the last one is recognized by its time alone, and writes nothing.
-/

namespace FleetControl

variable {slot : Nat} {seen : Nanos}

theorem Member.updateStatusSince_of_ne {member : Member} (hseen : member.transition.instant ≠ seen)
    (f : MemberStatus → MemberStatus) : member.updateStatusSince seen f = (member, false) := by
  rw [updateStatusSince, if_neg hseen]

theorem Fleet.members_degrade_of_ne {fleet : Fleet} {member : Member}
    (hmember : fleet.member? slot = some member) (hseen : member.transition.instant ≠ seen)
    (activity : String) (started : Int) (cause : String) :
    (fleet.degrade slot seen activity started cause).members = fleet.members := by
  rw [degrade, hmember]
  simp only [Member.markUnreachable, Member.updateStatusSince_of_ne hseen]

namespace Watching

variable {watching next : Watching} {member : Member}

/-- A probe that began before the last transition of its member writes nothing to the record. -/
theorem members_advance?_of_ne {probe : Probe} {commands : List Command}
    (hprobe : watching.probe? slot = some probe)
    (hmember : watching.fleet.member? slot = some member)
    (hseen : member.transition.instant ≠ probe.seen)
    (hstep : watching.advance? slot = some (next, commands)) :
    next.fleet.members = watching.fleet.members := by
  unfold advance? at hstep
  simp only [hprobe, hmember, Option.bind_eq_bind, Option.bind_some,
    Member.updateStatusSince_of_ne hseen] at hstep
  cases hphase : probe.phase with
  | begun =>
      simp only [hphase] at hstep
      obtain ⟨rfl, rfl⟩ := Prod.mk.inj (Option.some.inj hstep)
      rfl
  | healthy config report =>
      simp only [hphase] at hstep
      obtain ⟨rfl, rfl⟩ := Prod.mk.inj (Option.some.inj hstep)
      rfl
  | committing config report text =>
      simp only [hphase] at hstep
      obtain ⟨rfl, rfl⟩ := Prod.mk.inj (Option.some.inj hstep)
      rfl
  | failing fault started =>
      simp only [hphase] at hstep
      obtain ⟨rfl, rfl⟩ := Prod.mk.inj (Option.some.inj hstep)
      have hsame : (watching.fleet.recordProbeFailure slot fault.stage).member? slot =
          some member := hmember
      exact Fleet.members_degrade_of_ne hsame hseen ..
  | asking config started => simp [hphase] at hstep
  | finished => simp [hphase] at hstep
  | unwound text => simp [hphase] at hstep

/-- The monitor does not degrade a member for a probe that began before its last transition. -/
theorem members_join?_of_ne {left : List Watch}
    (hphase : watching.monitor.phase = .joining (⟨slot, seen⟩ :: left))
    (hmember : watching.fleet.member? slot = some member)
    (hseen : member.transition.instant ≠ seen) (hstep : watching.join? = some next) :
    next.fleet.members = watching.fleet.members := by
  unfold join? at hstep
  simp only [hphase, Option.bind_eq_bind, Option.bind_eq_some_iff] at hstep
  obtain ⟨probe, -, hstep⟩ := hstep
  split at hstep
  next =>
    obtain rfl := Option.some.inj hstep
    rfl
  next =>
    split at hstep
    next =>
      obtain rfl := Option.some.inj hstep
      rfl
    next =>
      obtain rfl := Option.some.inj hstep
      exact Fleet.members_degrade_of_ne hmember hseen ..
  next => simp at hstep

end Watching

/-- Once a stop or a restart has recorded a transition, the last one is later than any that was
noted before. -/
theorem Spaced.lt_of_recorded {interval origin : Nanos} {moments : List (Moment System Event)}
    {last : System} {moment : Moment System Event} {kind : TransitionKind} {after : Member}
    (spaced : Spaced interval slot origin moments last) (hmoment : moment ∈ moments)
    (hmark : moment.before.recorded? moment.event = some (slot, kind)) (hkind : kind ≠ .shutdown)
    (hafter : moment.after.fleet.member? slot = some after) {member : Member}
    (hmember : last.fleet.member? slot = some member) : origin < member.transition.instant := by
  have hturnover := Moment.turnover?_of_recorded hmark hkind hafter
  have hmem : after.transition.instant ∈ turnovers slot moments :=
    List.mem_filterMap.mpr ⟨moment, hmoment, hturnover⟩
  obtain ⟨current, hcurrent, hbound⟩ := spaced.record
  obtain rfl := Option.some.inj (hmember.symm.trans hcurrent)
  cases hturnovers : turnovers slot moments with
  | nil => simp [hturnovers] at hmem
  | cons first rest =>
      have hapart := spaced.apart
      rw [hturnovers, List.isChain_cons_cons] at hapart
      have hlast := hbound first (by rw [hturnovers]; simp)
      exact Nat.lt_of_lt_of_le (Nat.lt_of_le_of_lt (Nat.le_add_right ..) hapart.1) hlast

/-- In a started fleet, whatever is called and whenever: once a stop or a restart has recorded a
transition of a member, nobody who noted the time of its last transition before that writes to its
record any more, however many transitions there were since. The report of a healthy member and the
degradation of one that failed are both refused, and the record stays, be it a probe that goes on
or the monitor that takes note of one that unwound. -/
theorem stale_writes_are_discarded {settings : FleetSettings} {fleet : Fleet}
    (hstarted : Started settings fleet) {tick : Nanos} {early late : List (Moment System Event)}
    {middle last : System} (hearly : Course System.step? (System.ofStart fleet tick) early middle)
    {member : Member} (hmember : middle.fleet.member? slot = some member)
    (hseen : member.transition.instant = seen) (hlate : Course System.step? middle late last)
    {moment : Moment System Event} (hmoment : moment ∈ late) {kind : TransitionKind}
    (hmark : moment.before.recorded? moment.event = some (slot, kind)) (hkind : kind ≠ .shutdown) :
    ∃ current, last.fleet.member? slot = some current ∧
      (∀ f, current.updateStatusSince seen f = (current, false)) ∧
      (∀ activity started now cause,
        current.markUnreachable seen activity started now cause = (current, false)) ∧
      (∀ probe next commands, last.watching.probe? slot = some probe → probe.seen = seen →
        last.step? (.probe slot) = some (next, commands) →
        next.fleet.members = last.fleet.members) ∧
      (∀ left next commands, last.monitor.phase = .joining (⟨slot, seen⟩ :: left) →
        last.step? .join = some (next, commands) →
        next.fleet.members = last.fleet.members) := by
  subst hseen
  have hslot : slot < fleet.members.length := by
    have hsize := (System.orderly_size_of_course (System.orderly_ofStart fleet tick) hearly).2
    exact hsize ▸ Fleet.slot_lt hmember
  obtain ⟨first, hfirst⟩ := Fleet.exists_member? hslot
  -- What was seen is the last transition of the middle state, so the rest is spaced from there on.
  have noted :=
    Spaced.course hstarted.timed (System.orderly_ofStart fleet tick) hfirst hearly
  have spaced := Spaced.course noted.timed noted.orderly hmember hlate
  obtain ⟨before, after, rfl, hbefore, hstep, -⟩ := hlate.cut hmoment
  obtain ⟨marked, hmarked, -⟩ :=
    ((Spaced.course noted.timed noted.orderly hmember hbefore).step hstep).record
  obtain ⟨current, hcurrent, -⟩ := spaced.record
  have hlater := spaced.lt_of_recorded hmoment hmark hkind hmarked hcurrent
  have hstale : current.transition.instant ≠ member.transition.instant := Nat.ne_of_gt hlater
  refine ⟨current, hcurrent, Member.updateStatusSince_of_ne hstale, ?_, ?_, ?_⟩
  · intro activity started now cause
    rw [Member.markUnreachable, Member.updateStatusSince_of_ne hstale]
  · intro probe next commands hprobe hseen hprobing
    simp only [System.step?, Option.map_eq_some_iff, Prod.exists] at hprobing
    obtain ⟨watching, more, hwatching, hpair⟩ := hprobing
    obtain ⟨rfl, rfl⟩ := Prod.mk.inj hpair
    exact Watching.members_advance?_of_ne hprobe hcurrent (hseen ▸ hstale) hwatching
  · intro left next commands hphase hjoining
    obtain ⟨watching, hwatching, hpair⟩ := Option.map_eq_some_iff.mp hjoining
    obtain ⟨rfl, rfl⟩ := Prod.mk.inj hpair
    exact Watching.members_join?_of_ne hphase hcurrent hstale hwatching

/-- Whoever read the record of the smallest fleet when it was started writes nothing to it once its
member was stopped. -/
theorem solo_stale_writes_are_discarded :
    ∃ fleet member moments last, Started soloSettings fleet ∧ fleet.member? 0 = some member ∧
      Course System.step? (System.ofStart fleet 0) moments last ∧
      ∃ current, last.fleet.member? 0 = some current ∧
        ∀ f, current.updateStatusSince member.transition.instant f = (current, false) := by
  obtain ⟨fleet, member, hstarted, hmember⟩ := started_solo
  have hslot := Fleet.slot_lt hmember
  obtain ⟨handle, hprocess⟩ := hstarted.process? hmember
  obtain ⟨moments, last, hcourse, hmark⟩ := System.course_stopped 0 hslot hprocess
  obtain ⟨current, hcurrent, hrefused, -⟩ := stale_writes_are_discarded hstarted .start
    hmember rfl hcourse (List.mem_append_right _ List.mem_cons_self) hmark (by simp)
  exact ⟨fleet, member, _, last, hstarted, hmember, hcourse, current, hcurrent, hrefused⟩

end FleetControl
