import FleetControl.Proofs.Fleet.Passage

/-!
# A round as one member sees it

The monitor comes to every member once in a round. What it does there is a matter of the member's
own record, of the answer that the member gives, of the wall clock and of the root signal: the visit
of a member is a small machine of its own, and whatever the round does with the other members is no
step of it. The calls may change the record meanwhile, but not how far the visit has come.
-/

namespace FleetControl

/-- Whoever degrades a member writes to its record what the record makes of that. -/
theorem Fleet.member?_degrade {fleet : Fleet} {slot : Nat} {member : Member}
    (hmember : fleet.member? slot = some member) (seen : Nanos) (activity : String) (started : Int)
    (cause : String) :
    (fleet.degrade slot seen activity started cause).member? slot =
      some (member.markUnreachable seen activity started fleet.clock.wall cause).1 := by
  by_cases hseen : member.transition.instant = seen
  · rw [member?_degrade_of_seen hmember hseen, Member.markUnreachable, Member.updateStatusSince,
      if_pos hseen]
  · simp [degrade, hmember, Member.markUnreachable, Member.updateStatusSince, hseen]

/-- How far a round has come with one member. -/
inductive Visit where
  /-- The monitor is on its way to the member. -/
  | ahead
  /-- The monitor has seen that the member does not run. -/
  | seenStopped
  /-- The monitor has seen that the member runs. -/
  | seenRunning
  /-- The probe that carries this time has come to a phase. -/
  | probed (seen : Nanos) (phase : ProbePhase)
  /-- Nothing is left to be done. -/
  | done
deriving DecidableEq, Repr

/-- What a step of a visit reads besides the record. -/
structure Reading where
  wall : Int
  rootFired : Bool
deriving DecidableEq, Repr

/-- What a probe comes to with an answer. -/
def Answer.phase (config : MemberConfig) (started : Int) : Answer ProbeReport → ProbePhase
  | .unwound text => .unwound text
  | .reply (.ok report) => .healthy config report
  | .reply (.error fault) => if fault.isCancelled then .finished else .failing fault started

/-- The next step of a visit to a member that gives this answer. -/
def Visit.next (answer : Answer ProbeReport) (reading : Reading) (member : Member) :
    Visit → Member × Visit
  | .ahead => (member, if member.running then .seenRunning else .seenStopped)
  | .seenStopped => (member.refreshStoppedText reading.wall, .done)
  | .seenRunning => (member, .probed member.transition.instant .begun)
  | .probed seen .begun => (member, .probed seen (.asking member.config reading.wall))
  | .probed seen (.asking config started) => (member, .probed seen (answer.phase config started))
  | .probed seen (.healthy config report) =>
      (member, .probed seen (.committing config report (member.healthyText reading.wall)))
  | .probed seen (.committing config report text) =>
      ((member.updateStatusSince seen (·.commit config.clientUrl text report)).1,
        .probed seen .finished)
  | .probed seen (.failing fault started) =>
      ((member.markUnreachable seen fault.stage.activity started reading.wall
        fault.source.message).1, .probed seen .finished)
  | .probed _ .finished => (member, .done)
  | .probed seen (.unwound text) =>
      (if reading.rootFired then member
        else (member.markUnreachable seen "probing" reading.wall reading.wall
          (unwindCause text)).1, .done)
  | .done => (member, .done)

/-- The visit waits for the member's answer. -/
def Visit.asks : Visit → Bool
  | .probed _ (.asking ..) => true
  | _ => false

/-- How far the visit of the member has come that the monitor is just looking at. -/
def MonitorPhase.visit : MonitorPhase → Visit
  | .looking .. => .ahead
  | .refreshing .. => .seenStopped
  | .noting .. => .seenRunning
  | .joining _ => .done
  | .idle => .done
  | .over => .done

namespace Watching

variable {watching next : Watching} {slot other : Nat} {member : Member} {visit : Visit}
  {commands : List Command}

/-- A visit has come this far. -/
inductive Visits (watching : Watching) (slot : Nat) : Visit → Prop where
  | ahead (hbefore : (∃ current, watching.monitor.phase.slot? = some current ∧ current < slot) ∨
        ∃ begun, watching.monitor.phase = .looking slot begun)
      (hprobe : watching.probe? slot = none) : Visits watching slot .ahead
  | seenStopped {begun : List Watch} (hphase : watching.monitor.phase = .refreshing slot begun)
      (hprobe : watching.probe? slot = none) : Visits watching slot .seenStopped
  | seenRunning {begun : List Watch} (hphase : watching.monitor.phase = .noting slot begun)
      (hprobe : watching.probe? slot = none) : Visits watching slot .seenRunning
  | probed {seen : Nanos} {phase : ProbePhase}
      (hprobe : watching.probe? slot = some { slot, seen, phase })
      (hpassed : ∀ current, watching.monitor.phase.slot? = some current → slot < current)
      (hwatch : ∀ watch ∈ watching.monitor.phase.pending, watch.slot = slot → watch.seen = seen) :
      Visits watching slot (.probed seen phase)
  | done (hprobe : watching.probe? slot = none)
      (hpassed : ∀ current, watching.monitor.phase.slot? = some current → slot < current) :
      Visits watching slot .done

namespace Visits

/-- The monitor begins a round with no visit made. -/
theorem of_tick (tidy : watching.Tidy) (hstep : watching.tick? = some next) :
    next.Visits slot .ahead := by
  simp only [tick?, Option.ite_none_right_eq_some, Option.some.injEq] at hstep
  obtain ⟨⟨hphase, -, -⟩, rfl⟩ := hstep
  refine .ahead ?_ (List.find?_eq_none.mpr fun probe hprobe _ => ?_)
  · rcases Nat.eq_zero_or_pos slot with rfl | hpos
    · exact .inr ⟨[], rfl⟩
    · exact .inl ⟨0, rfl, hpos⟩
  · obtain ⟨watch, hwatch, -⟩ := tidy.awaited (by simp [hphase]) probe hprobe
    simp [hphase, MonitorPhase.pending] at hwatch

/-- In between two rounds no visit is left. -/
theorem eq_done (hvisits : watching.Visits slot visit) (tidy : watching.Tidy)
    (hidle : watching.monitor.phase = .idle) : visit = .done := by
  cases hvisits with
  | ahead hbefore => simp [hidle, MonitorPhase.slot?] at hbefore
  | seenStopped hphase => simp [hidle] at hphase
  | seenRunning hphase => simp [hidle] at hphase
  | probed hprobe =>
      have hmem := List.mem_of_find?_eq_some hprobe
      obtain ⟨watch, hwatch, -⟩ := tidy.awaited (by simp [hidle]) _ hmem
      simp [hidle, MonitorPhase.pending] at hwatch
  | done => rfl

variable {current : Nat}

/-- The monitor goes on with another member. -/
theorem pass (hvisits : watching.Visits slot visit)
    (hslot : watching.monitor.phase.slot? = some current) (hother : current ≠ slot)
    (hprobe : next.probe? slot = watching.probe? slot)
    (hnext : next.monitor.phase.slot? = some current ∨
      ∃ begun, next.monitor.phase = .looking (current + 1) begun)
    (hpending : ∀ watch ∈ next.monitor.phase.pending,
      watch ∈ watching.monitor.phase.pending ∨ watch.slot = current) :
    next.Visits slot visit := by
  have hlater : (∀ later, watching.monitor.phase.slot? = some later → slot < later) →
      ∀ later, next.monitor.phase.slot? = some later → slot < later := by
    intro hpassed later hlater
    have hlt := hpassed current hslot
    rcases hnext with hsame | ⟨begun, hlooks⟩
    · exact Option.some.inj (hsame.symm.trans hlater) ▸ hlt
    · rw [hlooks] at hlater
      exact Option.some.inj hlater ▸ Nat.lt_succ_of_lt hlt
  cases hvisits with
  | ahead hbefore hnone =>
      refine .ahead ?_ (hprobe.trans hnone)
      have hlt : current < slot := by
        rcases hbefore with ⟨reached, hreached, hlt⟩ | ⟨begun, hlooks⟩
        · exact Option.some.inj (hreached.symm.trans hslot) ▸ hlt
        · rw [hlooks] at hslot
          exact absurd (Option.some.inj hslot).symm hother
      rcases hnext with hsame | ⟨begun, hlooks⟩
      · exact .inl ⟨current, hsame, hlt⟩
      · rcases Nat.lt_or_eq_of_le (Nat.succ_le_of_lt hlt) with hmore | hreached
        · exact .inl ⟨current + 1, by rw [hlooks]; rfl, hmore⟩
        · exact .inr ⟨begun, hreached ▸ hlooks⟩
  | seenStopped hphase =>
      rw [hphase] at hslot
      exact absurd (Option.some.inj hslot).symm hother
  | seenRunning hphase =>
      rw [hphase] at hslot
      exact absurd (Option.some.inj hslot).symm hother
  | probed hfound hpassed hwatch =>
      refine .probed (hprobe.trans hfound) (hlater hpassed) fun watch hmem hown => ?_
      rcases hpending watch hmem with hold | hnew
      · exact hwatch watch hold hown
      · exact absurd (hnew.symm.trans hown) hother
  | done hnone hpassed => exact .done (hprobe.trans hnone) (hlater hpassed)

/-- The monitor waits for probes, or for the next tick. -/
theorem wait (hvisits : watching.Visits slot visit)
    (hnone : ∀ current, watching.monitor.phase.slot? = some current → slot < current)
    (hprobe : next.probe? slot = watching.probe? slot)
    (hslot : next.monitor.phase.slot? = none)
    (hpending : ∀ watch ∈ next.monitor.phase.pending, watch ∈ watching.monitor.phase.pending) :
    next.Visits slot visit := by
  have hpassed : ∀ current, next.monitor.phase.slot? = some current → slot < current := by
    simp [hslot]
  cases hvisits with
  | ahead hbefore =>
      rcases hbefore with ⟨current, hcurrent, hlt⟩ | ⟨begun, hlooks⟩
      · exact absurd (hnone current hcurrent) (Nat.not_lt_of_lt hlt)
      · exact absurd (hnone slot (by rw [hlooks]; rfl)) (Nat.lt_irrefl slot)
  | seenStopped hphase => exact absurd (hnone slot (by rw [hphase]; rfl)) (Nat.lt_irrefl slot)
  | seenRunning hphase => exact absurd (hnone slot (by rw [hphase]; rfl)) (Nat.lt_irrefl slot)
  | probed hfound _ hwatch =>
      exact .probed (hprobe.trans hfound) hpassed fun watch hmem =>
        hwatch watch (hpending watch hmem)
  | done hgone => exact .done (hprobe.trans hgone) hpassed

/-- Other probes go on, and the monitor stays where it is. -/
theorem stay (hvisits : watching.Visits slot visit) (hmonitor : next.monitor = watching.monitor)
    (hprobe : next.probe? slot = watching.probe? slot) : next.Visits slot visit := by
  cases hvisits with
  | ahead hbefore hnone => exact .ahead (hmonitor ▸ hbefore) (hprobe.trans hnone)
  | seenStopped hphase hnone =>
      exact .seenStopped (hmonitor ▸ hphase) (hprobe.trans hnone)
  | seenRunning hphase hnone =>
      exact .seenRunning (hmonitor ▸ hphase) (hprobe.trans hnone)
  | probed hfound hpassed hwatch =>
      exact .probed (hprobe.trans hfound) (hmonitor ▸ hpassed) (hmonitor ▸ hwatch)
  | done hnone hpassed => exact .done (hprobe.trans hnone) (hmonitor ▸ hpassed)

/-- A visit is a matter of the monitor and its probes. -/
theorem kept (hvisits : watching.Visits slot visit) (hmonitor : next.monitor = watching.monitor)
    (hprobes : next.probes = watching.probes) : next.Visits slot visit :=
  hvisits.stay hmonitor (by rw [probe?, hprobes, probe?])

/-- The monitor has come to the member. -/
theorem reached (hvisits : watching.Visits slot visit)
    (hslot : watching.monitor.phase.slot? = some slot) :
    visit = watching.monitor.phase.visit ∧ watching.probe? slot = none := by
  cases hvisits with
  | ahead hbefore hprobe =>
      rcases hbefore with ⟨current, hcurrent, hlt⟩ | ⟨begun, hlooks⟩
      · exact absurd hlt (Option.some.inj (hcurrent.symm.trans hslot) ▸ Nat.lt_irrefl current)
      · exact ⟨by rw [hlooks]; rfl, hprobe⟩
  | seenStopped hphase hprobe => exact ⟨by rw [hphase]; rfl, hprobe⟩
  | seenRunning hphase hprobe => exact ⟨by rw [hphase]; rfl, hprobe⟩
  | probed _ hpassed => exact absurd (hpassed slot hslot) (Nat.lt_irrefl slot)
  | done _ hpassed => exact absurd (hpassed slot hslot) (Nat.lt_irrefl slot)

/-- While there is a probe of the member, it is the one that the visit has begun. -/
theorem of_probe (hvisits : watching.Visits slot visit) {probe : Probe}
    (hprobe : watching.probe? slot = some probe) :
    probe = { slot, seen := probe.seen, phase := probe.phase } ∧
      visit = .probed probe.seen probe.phase ∧
      (∀ current, watching.monitor.phase.slot? = some current → slot < current) ∧
      ∀ watch ∈ watching.monitor.phase.pending, watch.slot = slot → watch.seen = probe.seen := by
  cases hvisits with
  | ahead _ hnone => simp [hprobe] at hnone
  | seenStopped _ hnone => simp [hprobe] at hnone
  | seenRunning _ hnone => simp [hprobe] at hnone
  | done hnone => simp [hprobe] at hnone
  | probed hfound hpassed hwatch =>
      obtain rfl := Option.some.inj (hprobe.symm.trans hfound)
      exact ⟨rfl, rfl, hpassed, hwatch⟩

end Visits

/-- What the steps of a visit read at this moment. -/
def reading (watching : Watching) : Reading :=
  { wall := watching.fleet.clock.wall, rootFired := watching.fleet.rootFired }

/-- The record of a slot's member, and how far its visit has come. -/
def Meets (watching : Watching) (slot : Nat) (state : Member × Visit) : Prop :=
  watching.fleet.member? slot = some state.1 ∧ watching.Visits slot state.2

/-- The monitor notes the ends of probes while it waits for them. -/
theorem joining (hstep : watching.join? = some next) :
    ∃ left, watching.monitor.phase = .joining left := by
  unfold join? at hstep
  cases hphase : watching.monitor.phase with
  | joining left => exact ⟨left, rfl⟩
  | idle => simp [hphase] at hstep
  | looking current begun => simp [hphase] at hstep
  | refreshing current begun => simp [hphase] at hstep
  | noting current begun => simp [hphase] at hstep
  | _ => simp [hphase] at hstep

namespace Meets

variable {answer : Answer ProbeReport}

/-- The monitor takes a step with the member. -/
theorem survey (hmeets : watching.Meets slot (member, visit)) (tidy : watching.Tidy)
    (hslot : watching.monitor.phase.slot? = some slot) (hstep : watching.survey? = some next) :
    visit.asks = false ∧ next.Meets slot (visit.next answer watching.reading member) := by
  obtain ⟨hmember, hvisits⟩ := hmeets
  obtain ⟨rfl, hprobe⟩ := hvisits.reached hslot
  dsimp only at hmember
  unfold survey? at hstep
  cases hphase : watching.monitor.phase with
  | looking current begun =>
      obtain rfl : current = slot := by simpa [hphase, MonitorPhase.slot?] using hslot
      simp only [hphase, hmember, Option.some.injEq] at hstep
      subst next
      refine ⟨rfl, hmember, ?_⟩
      cases hrunning : member.running with
      | false => simpa [Visit.next, MonitorPhase.visit, hrunning] using .seenStopped rfl hprobe
      | true => simpa [Visit.next, MonitorPhase.visit, hrunning] using .seenRunning rfl hprobe
  | refreshing current begun =>
      obtain rfl : current = slot := by simpa [hphase, MonitorPhase.slot?] using hslot
      simp only [hphase, Option.some.injEq] at hstep
      subst next
      refine ⟨rfl, Fleet.member?_changeMember_of_eq hmember _, .done hprobe ?_⟩
      rintro _ ⟨⟩
      exact Nat.lt_succ_self _
  | noting current begun =>
      obtain rfl : current = slot := by simpa [hphase, MonitorPhase.slot?] using hslot
      simp only [hphase, hmember, Option.some.injEq] at hstep
      subst next
      let own : Probe := { slot := current, seen := member.transition.instant }
      have hown : (watching.probes ++ [own]).find? (·.slot = current) = some own := by
        rw [probe?] at hprobe
        simp [List.find?_append, hprobe, own]
      refine ⟨rfl, hmember, .probed hown ?_ ?_⟩
      · rintro _ ⟨⟩
        exact Nat.lt_succ_self _
      · intro watch hmem hsame
        rcases List.mem_append.mp hmem with hold | hnew
        · have hpending : watch ∈ watching.monitor.phase.pending := by rwa [hphase]
          exact absurd hsame (Nat.ne_of_lt (tidy.passed current hslot watch hpending))
        · rw [List.mem_singleton.mp hnew]
  | idle => simp [hphase, MonitorPhase.slot?] at hslot
  | joining left => simp [hphase, MonitorPhase.slot?] at hslot
  | _ => simp [hphase, MonitorPhase.slot?] at hslot

/-- The monitor takes a step with another member. -/
theorem survey_other (hmeets : watching.Meets slot (member, visit))
    (hslot : watching.monitor.phase.slot? ≠ some slot) (hstep : watching.survey? = some next) :
    next.Meets slot (member, visit) := by
  obtain ⟨hmember, hvisits⟩ := hmeets
  dsimp only at hmember hvisits
  unfold survey? at hstep
  cases hphase : watching.monitor.phase with
  | looking current begun =>
      have hcurrent : watching.monitor.phase.slot? = some current := by rw [hphase]; rfl
      have hother : current ≠ slot := fun hsame => hslot (hsame ▸ hcurrent)
      cases hfound : watching.fleet.member? current with
      | none =>
          simp only [hphase, hfound, Option.some.injEq] at hstep
          subst next
          -- Behind the last member there is none that is still to be visited.
          have hlt : slot < current :=
            Nat.lt_of_lt_of_le (Fleet.slot_lt hmember) (List.getElem?_eq_none_iff.mp hfound)
          refine ⟨hmember, hvisits.wait ?_ rfl rfl (by rw [hphase]; exact fun _ => id)⟩
          exact fun reached hreached => Option.some.inj (hcurrent.symm.trans hreached) ▸ hlt
      | some found =>
          simp only [hphase, hfound, Option.some.injEq] at hstep
          subst next
          refine ⟨hmember, hvisits.pass hcurrent hother rfl (.inl ?_) ?_⟩
          · simp only [setPhase]
            split <;> rfl
          · rw [hphase]
            simp only [setPhase]
            split <;> exact fun _ => .inl
  | refreshing current begun =>
      have hcurrent : watching.monitor.phase.slot? = some current := by rw [hphase]; rfl
      have hother : current ≠ slot := fun hsame => hslot (hsame ▸ hcurrent)
      simp only [hphase, Option.some.injEq] at hstep
      subst next
      refine ⟨(Fleet.member?_changeMember_of_ne hother _).trans hmember,
        hvisits.pass hcurrent hother rfl (.inr ⟨begun, rfl⟩) ?_⟩
      rw [hphase]
      exact fun _ => .inl
  | noting current begun =>
      have hcurrent : watching.monitor.phase.slot? = some current := by rw [hphase]; rfl
      have hother : current ≠ slot := fun hsame => hslot (hsame ▸ hcurrent)
      cases hfound : watching.fleet.member? current with
      | none => simp [hphase, hfound] at hstep
      | some found =>
          simp only [hphase, hfound, Option.some.injEq] at hstep
          subst next
          refine ⟨hmember, hvisits.pass hcurrent hother ?_ (.inr ⟨_, rfl⟩) ?_⟩
          · simp [probe?, setPhase, List.find?_append, hother]
          · rw [hphase]
            intro watch hmem
            rcases List.mem_append.mp hmem with hold | hnew
            · exact .inl hold
            · exact .inr (by rw [List.mem_singleton.mp hnew])
  | idle => simp [hphase] at hstep
  | joining left => simp [hphase] at hstep
  | _ => simp [hphase] at hstep

/-- The monitor takes note of the end of the member's probe. -/
theorem join (hmeets : watching.Meets slot (member, visit)) {watch : Watch} {left : List Watch}
    (hphase : watching.monitor.phase = .joining (watch :: left)) (hslot : watch.slot = slot)
    (hstep : watching.join? = some next) :
    visit.asks = false ∧ next.Meets slot (visit.next answer watching.reading member) := by
  obtain ⟨hmember, hvisits⟩ := hmeets
  dsimp only at hmember hvisits
  subst slot
  simp only [join?, hphase, Option.bind_eq_bind, Option.bind_eq_some_iff] at hstep
  obtain ⟨probe, hprobe, hstep⟩ := hstep
  obtain ⟨-, rfl, -, hwatch⟩ := hvisits.of_probe hprobe
  have hpending : watch ∈ watching.monitor.phase.pending := by
    rw [hphase]
    exact List.mem_cons_self
  have hseen : watch.seen = probe.seen := hwatch watch hpending rfl
  have hgone := probe?_dropProbe watching watch.slot
  have hnone : ∀ current, (MonitorPhase.joining left).slot? = some current →
      watch.slot < current := by simp [MonitorPhase.slot?]
  split at hstep
  next hfinished =>
    obtain rfl := Option.some.inj hstep
    rw [hfinished]
    exact ⟨rfl, hmember, .done hgone hnone⟩
  next text hunwound =>
    rw [hunwound]
    refine ⟨rfl, ?_⟩
    split at hstep
    next hroot =>
      obtain rfl := Option.some.inj hstep
      refine ⟨hmember.trans ?_, .done hgone hnone⟩
      simp [Visit.next, reading, hroot]
    next hroot =>
      obtain rfl := Option.some.inj hstep
      refine ⟨(Fleet.member?_degrade hmember ..).trans ?_, .done hgone hnone⟩
      simp [Visit.next, reading, hroot, hseen]
  next => simp at hstep

/-- The monitor waits for the probe of another member, or the round is over. -/
theorem join_other (hmeets : watching.Meets slot (member, visit))
    (hother : ∀ watch left, watching.monitor.phase = .joining (watch :: left) → watch.slot ≠ slot)
    (hstep : watching.join? = some next) : next.Meets slot (member, visit) := by
  obtain ⟨hmember, hvisits⟩ := hmeets
  dsimp only at hmember hvisits
  unfold join? at hstep
  cases hphase : watching.monitor.phase with
  | joining pending =>
      have hnone : ∀ current, watching.monitor.phase.slot? = some current → slot < current := by
        simp [hphase, MonitorPhase.slot?]
      cases pending with
      | nil =>
          simp only [hphase, Option.some.injEq] at hstep
          subst next
          exact ⟨hmember, hvisits.wait hnone rfl rfl (List.forall_mem_nil _)⟩
      | cons watch left =>
          simp only [hphase, Option.bind_eq_bind, Option.bind_eq_some_iff] at hstep
          obtain ⟨probe, hprobe, hstep⟩ := hstep
          have hdrop : (watching.dropProbe watch.slot).probe? slot = watching.probe? slot :=
            probe?_dropProbe_of_ne (hother watch left hphase)
          have hmore : ∀ other ∈ left, other ∈ watching.monitor.phase.pending := by
            rw [hphase]
            exact fun _ => List.mem_cons_of_mem watch
          split at hstep
          next =>
            obtain rfl := Option.some.inj hstep
            exact ⟨hmember, hvisits.wait hnone hdrop rfl hmore⟩
          next =>
            split at hstep
            next =>
              obtain rfl := Option.some.inj hstep
              exact ⟨hmember, hvisits.wait hnone hdrop rfl hmore⟩
            next =>
              obtain rfl := Option.some.inj hstep
              exact ⟨(Fleet.member?_degrade_of_ne (hother watch left hphase) ..).trans hmember,
                hvisits.wait hnone hdrop rfl hmore⟩
          next => simp at hstep
  | idle => simp [hphase] at hstep
  | looking current begun => simp [hphase] at hstep
  | refreshing current begun => simp [hphase] at hstep
  | noting current begun => simp [hphase] at hstep
  | _ => simp [hphase] at hstep

/-- The member's probe has come to another phase. -/
theorem probed (hvisits : watching.Visits slot visit) {probe : Probe}
    (hprobe : watching.probe? slot = some probe) (phase : ProbePhase) :
    (watching.setProbe { probe with phase }).Visits slot (.probed probe.seen phase) := by
  obtain ⟨hown, -, hpassed, hwatch⟩ := hvisits.of_probe hprobe
  refine .probed ?_ hpassed hwatch
  rw [probe?_setProbe hprobe phase, hown]

/-- The member's probe goes on by itself. -/
theorem advance (hmeets : watching.Meets slot (member, visit)) {commands : List Command}
    (hstep : watching.advance? slot = some (next, commands)) :
    visit.asks = false ∧ next.Meets slot (visit.next answer watching.reading member) := by
  obtain ⟨hmember, hvisits⟩ := hmeets
  dsimp only at hmember hvisits
  unfold advance? at hstep
  simp only [Option.bind_eq_bind, Option.bind_eq_some_iff] at hstep
  obtain ⟨probe, hprobe, found, hfound, hstep⟩ := hstep
  obtain rfl := Option.some.inj (hmember.symm.trans hfound)
  have hnext := probed hvisits hprobe
  obtain ⟨-, rfl, -⟩ := hvisits.of_probe hprobe
  cases hphase : probe.phase with
  | begun =>
      simp only [hphase] at hstep
      obtain ⟨rfl, -⟩ := Prod.mk.inj (Option.some.inj hstep)
      exact ⟨rfl, hmember, hnext _⟩
  | healthy config report =>
      simp only [hphase] at hstep
      obtain ⟨rfl, -⟩ := Prod.mk.inj (Option.some.inj hstep)
      exact ⟨rfl, hmember, hnext _⟩
  | committing config report text =>
      simp only [hphase, Member.updateStatusSince] at hstep
      by_cases hseen : member.transition.instant = probe.seen
      · rw [if_pos hseen] at hstep
        obtain ⟨rfl, -⟩ := Prod.mk.inj (Option.some.inj hstep)
        refine ⟨rfl, (Fleet.member?_changeMember_of_eq hmember _).trans ?_,
          (hnext .finished).kept rfl rfl⟩
        simp [Visit.next, Member.updateStatusSince, hseen]
      · rw [if_neg hseen] at hstep
        obtain ⟨rfl, -⟩ := Prod.mk.inj (Option.some.inj hstep)
        refine ⟨rfl, hmember.trans ?_, hnext .finished⟩
        simp [Visit.next, Member.updateStatusSince, hseen]
  | failing fault started =>
      simp only [hphase] at hstep
      obtain ⟨rfl, -⟩ := Prod.mk.inj (Option.some.inj hstep)
      have hcounted : (watching.fleet.recordProbeFailure slot fault.stage).member? slot =
          some member := hmember
      exact ⟨rfl, Fleet.member?_degrade hcounted .., (hnext .finished).kept rfl rfl⟩
  | asking config started => simp [hphase] at hstep
  | finished => simp [hphase] at hstep
  | unwound text => simp [hphase] at hstep

/-- The probe of another member goes on by itself. -/
theorem advance_other (hmeets : watching.Meets slot (member, visit)) (hother : other ≠ slot)
    {commands : List Command} (hstep : watching.advance? other = some (next, commands)) :
    next.Meets slot (member, visit) := by
  obtain ⟨hmember, hvisits⟩ := hmeets
  dsimp only at hmember hvisits
  unfold advance? at hstep
  simp only [Option.bind_eq_bind, Option.bind_eq_some_iff] at hstep
  obtain ⟨probe, hprobe, found, hfound, hstep⟩ := hstep
  have hnext : ∀ phase, (watching.setProbe { probe with phase }).Visits slot visit :=
    fun phase => hvisits.stay rfl (probe?_setProbe_of_ne hother hprobe phase)
  cases hphase : probe.phase with
  | begun =>
      simp only [hphase] at hstep
      obtain ⟨rfl, -⟩ := Prod.mk.inj (Option.some.inj hstep)
      exact ⟨hmember, hnext _⟩
  | healthy config report =>
      simp only [hphase] at hstep
      obtain ⟨rfl, -⟩ := Prod.mk.inj (Option.some.inj hstep)
      exact ⟨hmember, hnext _⟩
  | committing config report text =>
      simp only [hphase] at hstep
      split at hstep
      next =>
        obtain ⟨rfl, -⟩ := Prod.mk.inj (Option.some.inj hstep)
        exact ⟨(Fleet.member?_changeMember_of_ne hother _).trans hmember,
          (hnext .finished).kept rfl rfl⟩
      next =>
        obtain ⟨rfl, -⟩ := Prod.mk.inj (Option.some.inj hstep)
        exact ⟨hmember, hnext .finished⟩
  | failing fault started =>
      simp only [hphase] at hstep
      obtain ⟨rfl, -⟩ := Prod.mk.inj (Option.some.inj hstep)
      exact ⟨(Fleet.member?_degrade_of_ne hother ..).trans hmember, (hnext .finished).kept rfl rfl⟩
  | asking config started => simp [hphase] at hstep
  | finished => simp [hphase] at hstep
  | unwound text => simp [hphase] at hstep

/-- The member gives its answer. -/
theorem answered (hmeets : watching.Meets slot (member, visit))
    (hstep : watching.answered? slot answer = some next) :
    next.Meets slot (visit.next answer watching.reading member) := by
  obtain ⟨hmember, hvisits⟩ := hmeets
  dsimp only at hmember hvisits
  unfold answered? at hstep
  simp only [Option.bind_eq_bind, Option.bind_eq_some_iff] at hstep
  obtain ⟨probe, hprobe, hstep⟩ := hstep
  have hnext := probed hvisits hprobe
  obtain ⟨-, rfl, -⟩ := hvisits.of_probe hprobe
  split at hstep
  next config started hphase =>
    obtain rfl := Option.some.inj hstep
    rw [hphase]
    refine ⟨hmember, ?_⟩
    cases answer with
    | unwound text => exact hnext _
    | reply outcome =>
        cases outcome with
        | ok report => exact hnext _
        | error fault => exact hnext _
  next => simp at hstep

/-- Another member gives its answer, or its probe ends without one. -/
theorem answered_other (hmeets : watching.Meets slot (member, visit)) (hother : other ≠ slot)
    (hstep : watching.answered? other answer = some next) : next.Meets slot (member, visit) := by
  obtain ⟨hmember, hvisits⟩ := hmeets
  unfold answered? at hstep
  simp only [Option.bind_eq_bind, Option.bind_eq_some_iff] at hstep
  obtain ⟨probe, hprobe, hstep⟩ := hstep
  split at hstep
  next =>
    obtain rfl := Option.some.inj hstep
    exact ⟨hmember, hvisits.stay rfl (probe?_setProbe_of_ne hother hprobe _)⟩
  next => simp at hstep

theorem drop_other (hmeets : watching.Meets slot (member, visit))
    (hstep : watching.drop? other = some next) : next.Meets slot (member, visit) := by
  obtain ⟨hmember, hvisits⟩ := hmeets
  unfold drop? at hstep
  simp only [Option.bind_eq_bind, Option.bind_eq_some_iff] at hstep
  obtain ⟨probe, hprobe, hstep⟩ := hstep
  split at hstep
  next =>
    simp only [Option.ite_none_right_eq_some, Option.some.injEq] at hstep
    obtain ⟨habandoned, rfl⟩ := hstep
    have hother : other ≠ slot := by
      rintro rfl
      rw [(hvisits.of_probe hprobe).1] at habandoned
      exact Bool.false_ne_true habandoned
    exact ⟨hmember, hvisits.stay rfl (probe?_dropProbe_of_ne hother)⟩
  next => simp at hstep

end Meets

/-- A monitor that is over does nothing any more. -/
theorem Move.over (hmove : watching.Move next commands) (hover : watching.monitor.phase = .over) :
    next.monitor.phase = .over := by
  cases hmove with
  | tick hphase | gather hphase | look hphase | refresh hphase | note hphase | rest hphase
  | join hphase | recover hphase => simp [hover] at hphase
  | quit => rfl
  | ask | answer | word | commit | discard | fail | drop => exact hover

end Watching

/-- The event is a step of the visit of a slot's member. -/
def System.concerns (system : System) (slot : Nat) : Event → Bool
  | .survey => system.monitor.phase.slot? = some slot
  | .join => (system.monitor.phase.pending.head?.map (·.slot)) = some slot
  | .probe other => other = slot
  | .answered other _ => other = slot
  | _ => false

namespace System

variable {system next : System} {event : Event} {commands : List Command} {slot : Nat}
  {member : Member} {visit : Visit} {answer : Answer ProbeReport}

/-- A visit takes its next step. It waits for nothing but the member's answer. -/
theorem meets_of_concerns (tidy : system.watching.Tidy)
    (hmeets : system.watching.Meets slot (member, visit))
    (hstep : system.step? event = some (next, commands))
    (hconcerns : system.concerns slot event = true)
    (hanswer : ∀ given, event = .answered slot given → given = answer) :
    (visit.asks = true → event = .answered slot answer) ∧
      next.watching.Meets slot (visit.next answer system.watching.reading member) := by
  cases event with
  | survey =>
      obtain ⟨watching, hwatching, rfl, rfl⟩ := exists_of_onWatching hstep
      obtain ⟨hasks, hnext⟩ := hmeets.survey tidy (of_decide_eq_true hconcerns) hwatching
      exact ⟨by simp [hasks], hnext⟩
  | join =>
      obtain ⟨watching, hwatching, rfl, rfl⟩ := exists_of_onWatching hstep
      obtain ⟨left, hphase⟩ := Watching.joining hwatching
      have hhead : system.watching.monitor.phase.pending.head?.map (·.slot) = some slot :=
        of_decide_eq_true hconcerns
      rw [hphase] at hhead
      cases left with
      | nil => simp [MonitorPhase.pending] at hhead
      | cons watch left =>
          obtain ⟨hasks, hnext⟩ := hmeets.join hphase (Option.some.inj hhead) hwatching
          exact ⟨by simp [hasks], hnext⟩
  | probe other =>
      obtain rfl : other = slot := of_decide_eq_true hconcerns
      obtain ⟨watching, hwatching, rfl⟩ := exists_of_advance? hstep
      obtain ⟨hasks, hnext⟩ := hmeets.advance hwatching
      exact ⟨by simp [hasks], hnext⟩
  | answered other given =>
      obtain rfl : other = slot := of_decide_eq_true hconcerns
      obtain rfl := hanswer given rfl
      obtain ⟨watching, hwatching, rfl, rfl⟩ := exists_of_onWatching hstep
      exact ⟨fun _ => rfl, hmeets.answered hwatching⟩
  | outside | call | advance | launched | ready | abandoned | ended | tick | quit | drop =>
      simp [concerns] at hconcerns

/-- The calls change at most the record. -/
theorem meets_of_turn (hmeets : system.watching.Meets slot (member, visit)) {calling : Calling}
    {underway later : Option Call} {heard : List EngineNote} {mark : Option Mark}
    (hturn : Turn system.fleet underway heard commands mark calling.fleet later) :
    ∃ after, member.Turned slot system.fleet.clock mark after ∧
      (system.withCalling calling).watching.Meets slot (after, visit) := by
  obtain ⟨after, hafter⟩ := Fleet.exists_member?
    (hturn.size_eq.symm ▸ Fleet.slot_lt hmeets.1)
  obtain ⟨old, hold, hturned⟩ := hturn.exists_member? hafter
  obtain rfl := Option.some.inj (hmeets.1.symm.trans hold)
  exact ⟨after, hturned, hafter, hmeets.2.kept rfl rfl⟩

/-- Whatever else happens in a round leaves the visit where it is, and at most the calls change the
record. -/
theorem meets_of_not_concerns (orderly : system.Orderly)
    (hmeets : system.watching.Meets slot (member, visit))
    (hstep : system.step? event = some (next, commands)) (htick : event ≠ .tick)
    (hover : next.monitor.phase ≠ .over) (hconcerns : system.concerns slot event = false) :
    ∃ after, member.Turned slot system.fleet.clock (system.recorded? event) after ∧
      next.watching.Meets slot (after, visit) := by
  have hkept : member.Turned slot system.fleet.clock none member := .kept (by simp)
  cases event with
  | outside outer =>
      simp only [step?, Option.map_eq_some_iff, Prod.mk.injEq] at hstep
      obtain ⟨fleet, houtside, rfl, rfl⟩ := hstep
      refine ⟨member, hkept, ?_, hmeets.2.kept rfl rfl⟩
      cases outer with
      | time clock =>
          simp only [Fleet.outside?, Option.ite_none_right_eq_some, Option.some.injEq] at houtside
          obtain ⟨-, rfl⟩ := houtside
          exact hmeets.1
      | fireRoot =>
          obtain rfl := Option.some.inj houtside
          exact hmeets.1
      | touch files =>
          obtain rfl := Option.some.inj houtside
          exact hmeets.1
  | call operation =>
      obtain ⟨rfl, rfl⟩ := Prod.mk.inj (Option.some.inj hstep)
      exact meets_of_turn hmeets (Calling.turn_of_make orderly operation).2
  | advance id =>
      obtain ⟨calling, hcalling, rfl⟩ := exists_of_onCalling hstep
      exact meets_of_turn hmeets (Calling.turn_of_advance orderly hcalling).2
  | launched id outcome =>
      obtain ⟨calling, hcalling, rfl⟩ := exists_of_onCalling hstep
      exact meets_of_turn hmeets (Calling.turn_of_launched orderly hcalling).2
  | ready id outcome =>
      obtain ⟨calling, hcalling, rfl⟩ := exists_of_onCalling hstep
      exact meets_of_turn hmeets (Calling.turn_of_ready orderly hcalling).2
  | abandoned id =>
      obtain ⟨calling, hcalling, rfl⟩ := exists_of_onCalling hstep
      exact meets_of_turn hmeets (Calling.turn_of_abandoned orderly hcalling).2
  | ended id handle =>
      simp only [step?, Option.map_eq_some_iff, Prod.mk.injEq] at hstep
      obtain ⟨calling, hcalling, rfl, rfl⟩ := hstep
      exact meets_of_turn hmeets (Calling.turn_of_ended orderly hcalling).2
  | tick => exact absurd rfl htick
  | survey =>
      obtain ⟨watching, hwatching, rfl, rfl⟩ := exists_of_onWatching hstep
      exact ⟨member, hkept, hmeets.survey_other (of_decide_eq_false hconcerns) hwatching⟩
  | join =>
      obtain ⟨watching, hwatching, rfl, rfl⟩ := exists_of_onWatching hstep
      have hhead : system.watching.monitor.phase.pending.head?.map (·.slot) ≠ some slot :=
        of_decide_eq_false hconcerns
      refine ⟨member, hkept, hmeets.join_other (fun watch left hphase hslot => ?_) hwatching⟩
      rw [hphase] at hhead
      exact hhead (congrArg some hslot)
  | quit =>
      obtain ⟨watching, hwatching, rfl, rfl⟩ := exists_of_onWatching hstep
      exact absurd (Watching.over_of_quit hwatching) hover
  | probe other =>
      obtain ⟨watching, hwatching, rfl⟩ := exists_of_advance? hstep
      exact ⟨member, hkept, hmeets.advance_other (of_decide_eq_false hconcerns) hwatching⟩
  | answered other given =>
      obtain ⟨watching, hwatching, rfl, rfl⟩ := exists_of_onWatching hstep
      exact ⟨member, hkept, hmeets.answered_other (of_decide_eq_false hconcerns) hwatching⟩
  | drop other =>
      obtain ⟨watching, hwatching, rfl, rfl⟩ := exists_of_onWatching hstep
      exact ⟨member, hkept, hmeets.drop_other hwatching⟩

/-- A complete round of the monitor, with everything else that happens meanwhile. -/
structure Round (first : System) (moments : List (Moment System Event)) (last : System) : Prop where
  begins : ∃ begun commands, first.step? .tick = some (begun, commands) ∧
    Course step? begun moments last
  single : ∀ moment ∈ moments, moment.event ≠ .tick
  idle : last.monitor.phase = .idle

variable {first last : System} {moments : List (Moment System Event)}

/-- Once the monitor is over, it stays so. -/
theorem over_of_step? (orderly : system.Orderly)
    (hstep : system.step? event = some (next, commands)) (hover : system.monitor.phase = .over) :
    next.monitor.phase = .over := by
  obtain ⟨-, hstepped⟩ := step_of_step? orderly hstep
  cases hstepped with
  | turn _ _ hmonitor => exact hmonitor ▸ hover
  | move hmove => exact hmove.over hover
  | outside _ _ _ _ _ hmonitor => exact hmonitor ▸ hover

/-- The lock stays in order, and so do the probes. -/
theorem keeps_step (hkept : system.Orderly ∧ system.watching.Tidy)
    (hstep : system.step? event = some (next, commands)) :
    next.Orderly ∧ next.watching.Tidy := by
  obtain ⟨orderly, tidy⟩ := hkept
  obtain ⟨horderly, hstepped⟩ := step_of_step? orderly hstep
  cases hstepped with
  | turn _ _ hmonitor hprobes => exact ⟨horderly, tidy.kept hmonitor hprobes⟩
  | move hmove => exact ⟨horderly, tidy.move hmove⟩
  | outside _ _ _ _ _ hmonitor hprobes => exact ⟨horderly, tidy.kept hmonitor hprobes⟩

/-- At any time in the life of a fleet. -/
theorem keeps_course {fleet : Fleet} {tick : Nanos} {last : System}
    {history : List (Moment System Event)}
    (hcourse : Course step? (ofStart fleet tick) history last) :
    last.Orderly ∧ last.watching.Tidy := by
  have hstart : (ofStart fleet tick).watching.Tidy :=
    ⟨fun _ _ hprobe => absurd hprobe List.not_mem_nil, by
      simp [watching, ofStart, MonitorPhase.slot?]⟩
  exact hcourse.preserves ⟨orderly_ofStart fleet tick, hstart⟩
    fun hstep hkept => keeps_step hkept hstep

/-- What the round makes of one member: whatever the steps of its visit and the turns of the calls
keep on the way holds at the end, when the visit is done. -/
theorem Round.exists_member? (hround : first.Round moments last) (orderly : first.Orderly)
    (tidy : first.watching.Tidy) {old : Member} (hold : first.fleet.member? slot = some old)
    (answer : Moment System Event → Answer ProbeReport)
    (inv : List (Moment System Event) → Member × Visit → Prop)
    (hanswer : ∀ moment ∈ moments, ∀ given, moment.event = .answered slot given →
      given = answer moment)
    (hahead : inv [] (old, .ahead))
    (hown : ∀ early, ∀ moment ∈ moments, ∀ member visit,
      moment.before.concerns slot moment.event = true →
      (visit.asks = true → moment.event = .answered slot (answer moment)) →
      inv early (member, visit) →
      inv (early ++ [moment])
        (visit.next (answer moment) moment.before.watching.reading member))
    (hother : ∀ early, ∀ moment ∈ moments, ∀ member visit after,
      moment.before.concerns slot moment.event = false →
      moment.before.fleet.member? slot = some member →
      moment.after.fleet.member? slot = some after →
      member.Turned slot moment.before.fleet.clock (moment.before.recorded? moment.event) after →
      inv early (member, visit) → inv (early ++ [moment]) (after, visit)) :
    ∃ member, last.fleet.member? slot = some member ∧ inv moments (member, .done) := by
  obtain ⟨begun, commands, htick, hcourse⟩ := hround.begins
  have hbegun := keeps_step ⟨orderly, tidy⟩ htick
  obtain ⟨watching, hwatching, rfl, rfl⟩ := exists_of_onWatching htick
  have hmember : watching.fleet.member? slot = some old := by
    simp only [Watching.tick?, Option.ite_none_right_eq_some, Option.some.injEq] at hwatching
    obtain ⟨-, rfl⟩ := hwatching
    exact hold
  -- By induction over the part of the round that has passed; the monitor is not over in it, since
  -- it would stay so to the end.
  have hpart : ∀ part middle, Course step? (first.withWatching watching) part middle →
      (∀ moment ∈ part, moment ∈ moments) → middle.monitor.phase ≠ .over →
      ∃ member visit, middle.watching.Meets slot (member, visit) ∧ inv part (member, visit) := by
    intro part middle hmiddle
    induction hmiddle with
    | start =>
        intro _ _
        exact ⟨old, .ahead, ⟨hmember, .of_tick tidy hwatching⟩, hahead⟩
    | @next early before after event commands earlier hstep ih =>
        intro hmem hafter
        obtain ⟨hearly, hlast⟩ := List.forall_mem_append.mp hmem
        have hin := hlast _ List.mem_cons_self
        obtain ⟨horderly, htidy⟩ :=
          earlier.preserves hbegun fun hstep before => keeps_step before hstep
        obtain ⟨member, visit, hmeets, hinv⟩ :=
          ih hearly fun hover => hafter (over_of_step? horderly hstep hover)
        cases hconcerns : before.concerns slot event with
        | true =>
            obtain ⟨hasks, hnext⟩ :=
              meets_of_concerns htidy hmeets hstep hconcerns (hanswer _ hin)
            exact ⟨_, _, hnext, hown early _ hin member visit hconcerns hasks hinv⟩
        | false =>
            obtain ⟨changed, hturned, hnext⟩ := meets_of_not_concerns horderly hmeets hstep
              (hround.single _ hin) hafter hconcerns
            exact ⟨changed, visit, hnext,
              hother early _ hin member visit changed hconcerns hmeets.1 hnext.1 hturned hinv⟩
  obtain ⟨member, visit, hmeets, hinv⟩ :=
    hpart moments last hcourse (fun _ => id) (by simp [hround.idle])
  obtain ⟨-, htidy⟩ := hcourse.preserves hbegun fun hstep before => keeps_step before hstep
  obtain rfl := hmeets.2.eq_done htidy hround.idle
  exact ⟨member, hmeets.1, hinv⟩

/-- There are as many members after the round as before. -/
theorem Round.size_eq (hround : first.Round moments last) (orderly : first.Orderly) :
    last.fleet.members.length = first.fleet.members.length := by
  obtain ⟨begun, commands, htick, hcourse⟩ := hround.begins
  obtain ⟨hbegun, hstepped⟩ := step_of_step? orderly htick
  exact (orderly_size_of_course hbegun hcourse).2.trans hstepped.size_eq

/-- A round that nothing disturbs leaves aside whatever the structural calls change. -/
theorem Round.aside (hround : first.Round moments last) {answers : Nat → Answer ProbeReport}
    (hevents : ∀ moment ∈ moments, moment.event.Undisturbed answers) :
    first.fleet.Aside last.fleet ∧ last.fleet.rootFired = first.fleet.rootFired := by
  obtain ⟨begun, commands, htick, hcourse⟩ := hround.begins
  have htrivial : Event.tick.Undisturbed answers := trivial
  obtain ⟨hbegun, hsame⟩ := aside_of_undisturbed htrivial htick
  obtain ⟨haside, hroot⟩ := aside_of_undisturbed_course hcourse hevents
  exact ⟨hbegun.trans haside, hroot.trans hsame⟩

variable {left : List Watch}

/-- The monitor and its probes go on, and members give these answers. -/
theorem Strolls.exists_course {after : System} (hstrolls : system.Strolls after)
    (answers : Nat → Answer ProbeReport) :
    ∃ moments, Course step? system moments after ∧
      ∀ moment ∈ moments, moment.event.Undisturbed answers ∧ moment.event ≠ .tick := by
  induction hstrolls with
  | start => exact ⟨[], .start, List.forall_mem_nil _⟩
  | @next _ _ event _ hstep hevent ih =>
      obtain ⟨moments, hcourse, hevents⟩ := ih
      refine ⟨_, .next hcourse hstep, List.forall_mem_append.mpr ⟨hevents, ?_⟩⟩
      rw [List.forall_mem_singleton]
      cases event with
      | survey | join | probe => exact ⟨trivial, by simp⟩
      | outside | call | advance | launched | ready | abandoned | ended | tick | quit | answered
      | drop => exact hevent.elim

/-- The monitor waits for the probes, and every member gives its answer. -/
theorem Gathered.exists_course (gathered : system.Gathered left)
    (answers : Nat → Answer ProbeReport) :
    ∃ moments last, Course step? system moments last ∧ last.monitor.phase = .idle ∧
      ∀ moment ∈ moments, moment.event.Undisturbed answers ∧ moment.event ≠ .tick := by
  induction left generalizing system with
  | nil =>
      obtain ⟨last, hstrolls, hidle⟩ := gathered.idle
      obtain ⟨moments, hcourse, hevents⟩ := hstrolls.exists_course answers
      exact ⟨moments, last, hcourse, hidle, hevents⟩
  | cons watch left ih =>
      obtain ⟨config, started, hask, hasking⟩ := gathered.joining.ask
      obtain ⟨phase, hanswer, hanswered, hphase⟩ := hasking.answer (answers watch.slot)
      obtain ⟨after, hstrolls, hrest⟩ := hanswered.gathers hphase
      obtain ⟨early, hearly, hevents⟩ := hstrolls.exists_course answers
      obtain ⟨late, last, hlate, hidle, hmore⟩ := ih hrest
      refine ⟨_, last, (((Course.single hask).next hanswer).append hearly).append hlate, hidle, ?_⟩
      refine List.forall_mem_append.mpr ⟨List.forall_mem_append.mpr ⟨?_, hevents⟩, hmore⟩
      simp [Event.Undisturbed]

/-- Once its time has come a round can be had in which nothing else happens, whatever the members
answer. -/
theorem exists_round (tidy : first.watching.Tidy) (hidle : first.monitor.phase = .idle)
    (hdue : first.monitor.due ≤ first.fleet.clock.instant) (hstop : first.fleet.stopFired = false)
    (answers : Nat → Answer ProbeReport) :
    ∃ moments last, first.Round moments last ∧
      ∀ moment ∈ moments, moment.event.Undisturbed answers := by
  obtain ⟨begun, htick, hsurveyed⟩ := exists_surveyed tidy hidle hdue hstop
  obtain ⟨gathered, left, hstrolls, hgathered⟩ := hsurveyed.exists_gathered _ (Nat.zero_add _)
  obtain ⟨early, hearly, hevents⟩ := hstrolls.exists_course answers
  obtain ⟨late, last, hlate, hover, hmore⟩ := hgathered.exists_course answers
  have hboth := List.forall_mem_append.mpr ⟨hevents, hmore⟩
  exact ⟨early ++ late, last, ⟨⟨begun, [], htick, hearly.append hlate⟩,
    fun moment hmem => (hboth moment hmem).2, hover⟩, fun moment hmem => (hboth moment hmem).1⟩

end System

end FleetControl
