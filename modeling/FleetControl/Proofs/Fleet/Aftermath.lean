import FleetControl.Proofs.Fleet.Fresh
import FleetControl.Proofs.Fleet.Passage
import FleetControl.Proofs.Fleet.Reach

/-!
# After the monitor

Once the monitor has told that it is over, it takes no step and begins no probe any more. It has
abandoned the probes of its last round, but it has not waited for them: one that has its answer, or
is just about to get it, goes on and writes to the record of its member, unless a transition has
come in between.
-/

namespace FleetControl

/-- The monitor itself goes on. -/
def Event.IsOfLoop : Event → Prop
  | .tick => True
  | .survey => True
  | .join => True
  | .quit => True
  | _ => False

/-- One of the probes goes on. -/
def Event.IsOfProbe : Event → Prop
  | .probe _ => True
  | .answered .. => True
  | .drop _ => True
  | _ => False

/-- The probe has asked its member, and has not told the record what came of it. -/
def ProbePhase.isInFlight : ProbePhase → Bool
  | .asking .. => true
  | .healthy .. => true
  | .committing .. => true
  | .failing .. => true
  | .begun => false
  | .finished => false
  | .unwound _ => false

/-- The probe of a slot changes a record. -/
def Moment.Writes (moment : Moment System Event) (slot : Nat) : Prop :=
  moment.event = .probe slot ∧ moment.after.fleet.members ≠ moment.before.fleet.members

/-- The monitor tells that it is over. -/
def Moment.IsDone (moment : Moment System Event) : Prop :=
  moment.before.fleet.doneFired = false ∧ moment.after.fleet.doneFired = true

theorem Fleet.doneFired_degrade (fleet : Fleet) (slot : Nat) (seen : Nanos) (activity : String)
    (started : Int) (cause : String) :
    (fleet.degrade slot seen activity started cause).doneFired = fleet.doneFired := by
  unfold degrade
  split
  next => rfl
  next => split <;> rfl

/-- A record is degraded only while no transition has come since. -/
theorem Fleet.seen_of_degrade {fleet : Fleet} {slot : Nat} {seen : Nanos} {activity : String}
    {started : Int} {cause : String}
    (hchanged : (fleet.degrade slot seen activity started cause).members ≠ fleet.members) :
    ∃ member, fleet.member? slot = some member ∧ member.transition.instant = seen := by
  unfold degrade at hchanged
  cases hmember : fleet.member? slot with
  | none => simp [hmember] at hchanged
  | some member =>
      refine ⟨member, rfl, ?_⟩
      by_contra hseen
      simp [hmember, Member.markUnreachable, Member.updateStatusSince, hseen] at hchanged

namespace Watching

variable {watching middle next : Watching} {commands : List Command} {slot : Nat} {probe : Probe}

/-- The monitor is over, and the probes that are left have asked. -/
structure Over (watching : Watching) : Prop where
  phase : watching.monitor.phase = .over
  asked : ∀ probe ∈ watching.probes, probe.phase ≠ .begun

/-- The probes that are left were there before, and those in flight were in flight. -/
def Descends (watching next : Watching) : Prop :=
  ∀ probe ∈ next.probes, ∃ origin ∈ watching.probes, origin.slot = probe.slot ∧
    origin.seen = probe.seen ∧ (probe.phase.isInFlight = true → origin.phase.isInFlight = true)

namespace Descends

theorem refl (watching : Watching) : Descends watching watching :=
  fun probe hprobe => ⟨probe, hprobe, rfl, rfl, id⟩

theorem trans (hleft : Descends watching middle) (hright : Descends middle next) :
    Descends watching next := by
  intro probe hprobe
  obtain ⟨between, hbetween, hslot, hseen, hflight⟩ := hright probe hprobe
  obtain ⟨origin, horigin, hsame, hnoted, hearlier⟩ := hleft between hbetween
  exact ⟨origin, horigin, hsame.trans hslot, hnoted.trans hseen, hearlier ∘ hflight⟩

theorem of_subset (hsubset : ∀ probe ∈ next.probes, probe ∈ watching.probes) :
    Descends watching next :=
  fun probe hprobe => ⟨probe, hsubset probe hprobe, rfl, rfl, id⟩

/-- A probe goes on. -/
theorem setProbe (hprobe : watching.probe? slot = some probe) {phase : ProbePhase}
    (hphase : phase.isInFlight = true → probe.phase.isInFlight = true)
    (hnext : next.probes = (watching.setProbe { probe with phase }).probes) :
    Descends watching next := by
  intro later hlater
  rw [hnext] at hlater
  obtain ⟨origin, horigin, rfl⟩ := List.mem_map.mp hlater
  split
  next => exact ⟨probe, List.mem_of_find?_eq_some hprobe, rfl, rfl, hphase⟩
  next => exact ⟨origin, horigin, rfl, rfl, id⟩

end Descends

/-- Only its end makes the monitor tell that it is over; the probes that have asked are left. -/
theorem Move.over_of_done (hmove : watching.Move next commands)
    (hbefore : watching.fleet.doneFired = false) (hafter : next.fleet.doneFired = true) :
    next.Over ∧ watching.Descends next := by
  have hnever : next.fleet.doneFired = watching.fleet.doneFired →
      next.Over ∧ watching.Descends next :=
    fun hsame => absurd (hbefore.symm.trans (hsame.symm.trans hafter)) Bool.false_ne_true
  cases hmove with
  | tick | gather | look | refresh | note | rest | join | ask | answer | word | commit | discard
  | drop => exact hnever rfl
  | recover => exact hnever (Fleet.doneFired_degrade ..)
  | fail => exact hnever (Fleet.doneFired_degrade ..)
  | quit =>
      refine ⟨⟨rfl, fun probe hprobe => ?_⟩, fun probe hprobe => ?_⟩
      · obtain ⟨origin, horigin, rfl⟩ := List.mem_map.mp hprobe
        exact of_decide_eq_true (List.mem_filter.mp horigin).2
      · obtain ⟨origin, horigin, rfl⟩ := List.mem_map.mp hprobe
        exact ⟨origin, List.mem_of_mem_filter horigin, rfl, rfl, id⟩

/-- Afterwards only the probes that have asked go on. -/
theorem Over.move (ended : watching.Over) (hmove : watching.Move next commands) :
    next.Over ∧ watching.Descends next := by
  have hgone : ∀ {slot : Nat} {probe : Probe} {phase : ProbePhase},
      watching.probe? slot = some probe → probe.phase.isInFlight = true → phase ≠ .begun →
      next.monitor = watching.monitor →
      next.probes = (watching.setProbe { probe with phase }).probes →
      next.Over ∧ watching.Descends next := by
    intro slot probe phase hprobe hflight hbegun hmonitor hprobes
    refine ⟨⟨hmonitor ▸ ended.phase, fun later hlater => ?_⟩,
      .setProbe hprobe (fun _ => hflight) hprobes⟩
    rw [hprobes] at hlater
    obtain ⟨origin, horigin, rfl⟩ := List.mem_map.mp hlater
    split
    next => exact hbegun
    next => exact ended.asked origin horigin
  have hover := ended.phase
  cases hmove with
  | tick hphase | gather hphase | look hphase | refresh hphase | note hphase | rest hphase
  | join hphase | recover hphase => simp [hover] at hphase
  | quit _ hphase => simp [hover] at hphase
  | ask hprobe _ hphase =>
      exact absurd hphase (ended.asked _ (List.mem_of_find?_eq_some hprobe))
  | answer hprobe hphase =>
      refine hgone hprobe (by rw [hphase]; rfl) ?_ rfl rfl
      split
      next => simp
      next => simp
      next => split <;> simp
  | word hprobe _ hphase => exact hgone hprobe (by rw [hphase]; rfl) (by simp) rfl rfl
  | commit hprobe _ hphase => exact hgone hprobe (by rw [hphase]; rfl) (by simp) rfl rfl
  | discard hprobe _ hphase => exact hgone hprobe (by rw [hphase]; rfl) (by simp) rfl rfl
  | fail hprobe hphase => exact hgone hprobe (by rw [hphase]; rfl) (by simp) rfl rfl
  | drop =>
      refine ⟨⟨ended.phase, fun later hlater => ?_⟩, .of_subset fun later hlater => ?_⟩
      · exact ended.asked later (mem_of_mem_dropProbe hlater).1
      · exact (mem_of_mem_dropProbe hlater).1

/-- Where a probe changes a record, it was in flight and no transition has come since it began; it
is in flight no more. -/
theorem write_of_advance (hstep : watching.advance? slot = some (next, commands))
    (hchanged : next.fleet.members ≠ watching.fleet.members) :
    (∃ probe ∈ watching.probes, probe.slot = slot ∧ probe.phase.isInFlight = true ∧
      ∃ member, watching.fleet.member? slot = some member ∧
        member.transition.instant = probe.seen) ∧
    ∀ probe ∈ next.probes, probe.slot = slot → probe.phase.isInFlight = false := by
  unfold advance? at hstep
  simp only [Option.bind_eq_bind, Option.bind_eq_some_iff] at hstep
  obtain ⟨probe, hprobe, member, hmember, hstep⟩ := hstep
  have hmem := List.mem_of_find?_eq_some hprobe
  have hslot := probe?_slot hprobe
  -- Whatever the probe wrote, it is finished afterwards.
  have hended : ∀ later ∈ (watching.setProbe { probe with phase := .finished }).probes,
      later.slot = slot → later.phase.isInFlight = false := by
    intro later hlater hsame
    obtain ⟨origin, -, rfl⟩ := List.mem_map.mp hlater
    split at hsame
    next hhere => rw [if_pos hhere]; rfl
    next hother => exact absurd (hsame.trans hslot.symm) hother
  cases hphase : probe.phase with
  | begun =>
      simp only [hphase] at hstep
      obtain ⟨rfl, -⟩ := Prod.mk.inj (Option.some.inj hstep)
      exact absurd rfl hchanged
  | healthy config report =>
      simp only [hphase] at hstep
      obtain ⟨rfl, -⟩ := Prod.mk.inj (Option.some.inj hstep)
      exact absurd rfl hchanged
  | committing config report text =>
      simp only [hphase, Member.updateStatusSince] at hstep
      by_cases hseen : member.transition.instant = probe.seen
      · rw [if_pos hseen] at hstep
        obtain ⟨rfl, -⟩ := Prod.mk.inj (Option.some.inj hstep)
        exact ⟨⟨probe, hmem, hslot, by rw [hphase]; rfl, member, hmember, hseen⟩, hended⟩
      · rw [if_neg hseen] at hstep
        obtain ⟨rfl, -⟩ := Prod.mk.inj (Option.some.inj hstep)
        exact absurd rfl hchanged
  | failing fault started =>
      simp only [hphase] at hstep
      obtain ⟨rfl, -⟩ := Prod.mk.inj (Option.some.inj hstep)
      have hdegraded : ((watching.fleet.recordProbeFailure slot fault.stage).degrade slot probe.seen
          fault.stage.activity started fault.source.message).members ≠
          (watching.fleet.recordProbeFailure slot fault.stage).members := hchanged
      have hseen := Fleet.seen_of_degrade hdegraded
      exact ⟨⟨probe, hmem, hslot, by rw [hphase]; rfl, hseen⟩, hended⟩
  | asking config started => simp [hphase] at hstep
  | finished => simp [hphase] at hstep
  | unwound text => simp [hphase] at hstep

end Watching

theorem Turn.doneFired_eq {fleet next : Fleet} {underway later : Option Call}
    {heard : List EngineNote} {commands : List Command} {mark : Option Mark}
    (hturn : Turn fleet underway heard commands mark next later) :
    next.doneFired = fleet.doneFired := by
  cases hturn <;> rfl

theorem Fleet.doneFired_outside {fleet next : Fleet} {outer : Outside}
    (houtside : fleet.outside? outer = some next) : next.doneFired = fleet.doneFired := by
  cases outer with
  | time clock =>
      simp only [outside?, Option.ite_none_right_eq_some, Option.some.injEq] at houtside
      obtain ⟨-, rfl⟩ := houtside
      rfl
  | fireRoot | touch =>
      obtain rfl := Option.some.inj houtside
      rfl

namespace System

variable {system next first last : System} {event : Event} {commands : List Command} {slot : Nat}
  {moments : List (Moment System Event)}

/-- Where the monitor tells that it is over, the probes in flight are left. -/
theorem over_of_done (orderly : system.Orderly)
    (hstep : system.step? event = some (next, commands))
    (hdone : Moment.IsDone ⟨system, event, commands, next⟩) :
    next.watching.Over ∧ system.watching.Descends next.watching := by
  obtain ⟨hbefore, hafter⟩ := hdone
  obtain ⟨-, hstepped⟩ := step_of_step? orderly hstep
  have hnever : next.fleet.doneFired = system.fleet.doneFired → False :=
    fun hsame => absurd (hbefore.symm.trans (hsame.symm.trans hafter)) Bool.false_ne_true
  cases hstepped with
  | turn hturn => exact (hnever hturn.doneFired_eq).elim
  | move hmove => exact hmove.over_of_done hbefore hafter
  | outside houtside => exact (hnever (Fleet.doneFired_outside houtside)).elim

/-- Afterwards they are left to themselves. -/
theorem descends_of_step? (orderly : system.Orderly) (ended : system.watching.Over)
    (hstep : system.step? event = some (next, commands)) :
    next.watching.Over ∧ system.watching.Descends next.watching := by
  obtain ⟨-, hstepped⟩ := step_of_step? orderly hstep
  have hkept : next.monitor = system.monitor → next.probes = system.probes →
      next.watching.Over ∧ system.watching.Descends next.watching := by
    intro hmonitor hprobes
    have hsame : next.watching.probes = system.watching.probes := hprobes
    refine ⟨⟨?_, fun probe hprobe => ?_⟩, .of_subset fun probe hprobe => ?_⟩
    · exact (congrArg Monitor.phase hmonitor).trans ended.phase
    · exact ended.asked probe (hsame ▸ hprobe)
    · exact hsame ▸ hprobe
  cases hstepped with
  | turn _ _ hmonitor hprobes => exact hkept hmonitor hprobes
  | move hmove => exact ended.move hmove
  | outside _ _ _ _ _ hmonitor hprobes => exact hkept hmonitor hprobes

theorem descends_of_course (hcourse : Course step? first moments last) (orderly : first.Orderly)
    (ended : first.watching.Over) :
    last.watching.Over ∧ first.watching.Descends last.watching := by
  suffices hlast : last.Orderly ∧ last.watching.Over ∧ first.watching.Descends last.watching from
    hlast.2
  apply hcourse.preserves ⟨orderly, ended, .refl _⟩
  intro before event after commands hstep hbefore
  obtain ⟨horderly, hover, hdescends⟩ := hbefore
  obtain ⟨hafter, hnext⟩ := descends_of_step? horderly hover hstep
  exact ⟨(step_of_step? horderly hstep).1, hafter, hdescends.trans hnext⟩

/-- The monitor takes no step any more. -/
theorem not_loop_of_over (ended : system.watching.Over)
    (hstep : system.step? event = some (next, commands)) : ¬ event.IsOfLoop := by
  have hover := ended.phase
  intro hloop
  cases event with
  | tick =>
      obtain ⟨watching, htick, -⟩ := exists_of_onWatching hstep
      simp [Watching.tick?, hover] at htick
  | survey =>
      obtain ⟨watching, hsurvey, -⟩ := exists_of_onWatching hstep
      simp [Watching.survey?, hover] at hsurvey
  | join =>
      obtain ⟨watching, hjoin, -⟩ := exists_of_onWatching hstep
      simp [Watching.join?, hover] at hjoin
  | quit =>
      obtain ⟨watching, hquit, -⟩ := exists_of_onWatching hstep
      simp [Watching.quit?, hover] at hquit
  | outside | call | advance | launched | ready | abandoned | ended | probe | answered | drop =>
      exact hloop.elim

/-- Of the steps of the probes only their own last ones change records. -/
theorem write_of_step? (hstep : system.step? event = some (next, commands))
    (hprobe : event.IsOfProbe) (hchanged : next.fleet.members ≠ system.fleet.members) :
    ∃ slot, event = .probe slot ∧
      (∃ probe ∈ system.probes, probe.slot = slot ∧ probe.phase.isInFlight = true ∧
        ∃ member, system.fleet.member? slot = some member ∧
          member.transition.instant = probe.seen) ∧
      ∀ probe ∈ next.probes, probe.slot = slot → probe.phase.isInFlight = false := by
  cases event with
  | probe slot =>
      obtain ⟨watching, hadvance, rfl⟩ := exists_of_advance? hstep
      exact ⟨slot, rfl, Watching.write_of_advance hadvance hchanged⟩
  | answered slot answer =>
      obtain ⟨watching, hanswered, rfl, -⟩ := exists_of_onWatching hstep
      exact absurd (congrArg Fleet.members (Watching.fleet_of_answered hanswered)) hchanged
  | drop slot =>
      obtain ⟨watching, hdrop, rfl, -⟩ := exists_of_onWatching hstep
      exact absurd (congrArg Fleet.members (Watching.fleet_of_drop hdrop)) hchanged
  | outside | call | advance | launched | ready | abandoned | ended | tick | survey | join | quit =>
      exact hprobe.elim

/-- A probe goes on, and nothing else does. -/
def goOn (system : System) (probe : Probe) (phase : ProbePhase) : System :=
  system.withWatching (system.watching.setProbe { probe with phase })

section

variable {probe : Probe} {config : MemberConfig} {report : ProbeReport} {member : Member}
  {text : String}

theorem probe?_goOn (hprobe : system.watching.probe? slot = some probe) (phase : ProbePhase) :
    (system.goOn probe phase).watching.probe? slot = some { probe with phase } :=
  Watching.probe?_setProbe hprobe phase

theorem step?_answered (hprobe : system.watching.probe? slot = some probe) {started : Int}
    (hphase : probe.phase = .asking config started) (report : ProbeReport) :
    system.step? (.answered slot (.reply (.ok report))) =
      some (system.goOn probe (.healthy config report), []) := by
  simp only [step?, Watching.answered?, hprobe, hphase, Option.bind_eq_bind, Option.bind_some]
  rfl

theorem step?_word (hprobe : system.watching.probe? slot = some probe)
    (hmember : system.fleet.member? slot = some member)
    (hphase : probe.phase = .healthy config report) :
    system.step? (.probe slot) =
      some (system.goOn probe (.committing config report
        (member.healthyText system.fleet.clock.wall)), []) := by
  have hhere : system.watching.fleet.member? slot = some member := hmember
  simp only [step?, Watching.advance?, hprobe, hhere, hphase, Option.bind_eq_bind,
    Option.bind_some]
  rfl

/-- A probe whose member has not changed over writes its report. -/
theorem exists_commit (hprobe : system.watching.probe? slot = some probe)
    (hmember : system.fleet.member? slot = some member)
    (hphase : probe.phase = .committing config report text)
    (hseen : member.transition.instant = probe.seen) :
    ∃ after, system.step? (.probe slot) = some (after, []) ∧
      after.fleet.member? slot =
        some (member.updateStatus (·.commit config.clientUrl text report)) := by
  have hhere : system.watching.fleet.member? slot = some member := hmember
  let written := member.updateStatus (·.commit config.clientUrl text report)
  refine ⟨{ system.goOn probe .finished with
    fleet := (system.fleet.changeMember slot fun _ => written).recordState slot
      (.ofLeadership report.status.isLeader) report.status.dbSize }, ?_, ?_⟩
  · simp only [step?, Watching.advance?, hprobe, hhere, hphase, Option.bind_eq_bind,
      Option.bind_some, Member.updateStatusSince, if_pos hseen]
    rfl
  · show (system.fleet.changeMember slot fun _ => written).member? slot = some written
    rw [Fleet.member?_changeMember_self, hmember]
    rfl

end

/-- A probe that waits for its answer may get any report and write it, as long as no transition
comes, and whatever has become of the monitor. -/
theorem course_late {probe : Probe} {config : MemberConfig} {started : Int} {member : Member}
    (hprobe : system.watching.probe? slot = some probe)
    (hphase : probe.phase = .asking config started)
    (hmember : system.fleet.member? slot = some member)
    (hseen : member.transition.instant = probe.seen) (report : ProbeReport) :
    ∃ early write text, Course step? system (early ++ [write]) write.after ∧
      (∀ moment ∈ early ++ [write], moment.event.IsOfProbe) ∧ write.event = .probe slot ∧
      write.before.fleet = system.fleet ∧ write.after.fleet.member? slot =
        some (member.updateStatus (·.commit config.clientUrl text report)) := by
  have hhealthy := probe?_goOn hprobe (.healthy config report)
  have hword := step?_word hhealthy hmember rfl
  obtain ⟨after, hwrite, hafter⟩ := exists_commit (probe?_goOn hhealthy _) hmember rfl hseen
  refine ⟨[_, _], ⟨_, .probe slot, [], after⟩, _,
    .next (.next (.single (step?_answered hprobe hphase report)) hword) hwrite, ?_, rfl, rfl,
    hafter⟩
  simp [Event.IsOfProbe]

/-- The monitor tells that it is over in one moment of the run. -/
theorem exists_done (hcourse : Course step? first moments last)
    (hbefore : first.fleet.doneFired = false) (hafter : last.fleet.doneFired = true) :
    ∃ early done late, moments = early ++ done :: late ∧ done.IsDone := by
  induction hcourse with
  | start => exact absurd (hbefore.symm.trans hafter) Bool.false_ne_true
  | @next moments middle after event commands earlier hstep ih =>
      cases hmiddle : middle.fleet.doneFired with
      | false => exact ⟨moments, _, [], rfl, hmiddle, hafter⟩
      | true =>
          obtain ⟨early, done, late, rfl, hdone⟩ := ih hmiddle
          exact ⟨early, done, late ++ [⟨middle, event, commands, after⟩], by simp, hdone⟩

/-- A probe that has changed a record does not change one again. -/
theorem not_writes_again (hcourse : Course step? first moments last) (orderly : first.Orderly)
    (ended : first.watching.Over) {past between rest : List (Moment System Event)}
    {earlier later : Moment System Event}
    (hmoments : moments = past ++ earlier :: (between ++ later :: rest))
    (hearlier : earlier.Writes slot) : ¬ later.Writes slot := by
  intro hlater
  subst hmoments
  obtain ⟨hpast, hwrite, hafter⟩ := hcourse.at_moment
  obtain ⟨hbetween, hagain, -⟩ := hafter.at_moment
  have horderly := (orderly_size_of_course orderly hpast).1
  obtain ⟨hover, -⟩ := descends_of_course hpast orderly ended
  obtain ⟨hstill, -⟩ := descends_of_step? horderly hover hwrite
  obtain ⟨-, hdescends⟩ := descends_of_course hbetween (step_of_step? horderly hwrite).1 hstill
  obtain ⟨other, hother, -, hended⟩ := write_of_step? hwrite (hearlier.1 ▸ trivial) hearlier.2
  obtain ⟨same, hsame, ⟨probe, hprobe, hslot, hflight, -⟩, -⟩ :=
    write_of_step? hagain (hlater.1 ▸ trivial) hlater.2
  obtain rfl := Event.probe.inj (hearlier.1.symm.trans hother)
  obtain rfl := Event.probe.inj (hlater.1.symm.trans hsame)
  obtain ⟨origin, horigin, hplace, -, hbefore⟩ := hdescends probe hprobe
  have hquiet := hended origin horigin (hplace.trans hslot)
  exact absurd (hquiet.symm.trans (hbefore hflight)) Bool.false_ne_true

end System

/-- In every run of a started fleet in which the monitor has told that it is over, whatever calls,
answers and failures come with it: from then on the monitor itself takes no step. A probe changes a
record only if it was in flight when the monitor told so and no transition of its member has come
since it began, and it does so at most once. But the probes in flight are not waited for: each that
is still asking may get any report, and write it while no transition comes. -/
theorem probes_in_flight_outlive_monitor {settings : FleetSettings} {fleet : Fleet}
    (hstarted : Started settings fleet) {tick : Nanos} {moments : List (Moment System Event)}
    {last : System} (hcourse : Course System.step? (System.ofStart fleet tick) moments last)
    (hdone : last.fleet.doneFired = true) :
    ∃ early done late, moments = early ++ done :: late ∧ done.IsDone ∧
      (∀ moment ∈ late, ¬ moment.event.IsOfLoop) ∧
      (∀ moment ∈ late, moment.event.IsOfProbe →
        moment.after.fleet.members ≠ moment.before.fleet.members →
        ∃ slot, moment.event = .probe slot ∧
          ∃ probe ∈ done.before.probes, probe.slot = slot ∧ probe.phase.isInFlight = true ∧
            ∃ member, moment.before.fleet.member? slot = some member ∧
              member.transition.instant = probe.seen) ∧
      (∀ slot past between rest earlier later,
        late = past ++ earlier :: (between ++ later :: rest) →
        earlier.Writes slot → ¬ later.Writes slot) ∧
      ∀ slot probe config started member, done.after.watching.probe? slot = some probe →
        probe.phase = .asking config started → done.after.fleet.member? slot = some member →
        member.transition.instant = probe.seen → ∀ report,
        ∃ more final text, Course System.step? done.after more final ∧
          (∀ moment ∈ more, moment.event.IsOfProbe) ∧
          final.fleet.member? slot =
            some (member.updateStatus (·.commit config.clientUrl text report)) := by
  obtain ⟨early, done, late, rfl, hmoment⟩ :=
    System.exists_done hcourse hstarted.fresh.doneFired hdone
  obtain ⟨hearly, hstep, hlate⟩ := hcourse.at_moment
  have horderly := ((hstarted.attended tick).course hearly).orderly
  have hafter := (System.step_of_step? horderly hstep).1
  obtain ⟨hover, hleft⟩ := System.over_of_done horderly hstep hmoment
  refine ⟨early, done, late, rfl, hmoment, fun moment hmem => ?_,
    fun moment hmem hprobe hchanged => ?_,
    fun slot past between rest earlier later hsplit => ?_, ?_⟩
  · obtain ⟨past, rest, -, hpast, hnow, -⟩ := hlate.cut hmem
    exact System.not_loop_of_over (System.descends_of_course hpast hafter hover).1 hnow
  · obtain ⟨past, rest, -, hpast, hnow, -⟩ := hlate.cut hmem
    have hdescends := hleft.trans (System.descends_of_course hpast hafter hover).2
    obtain ⟨slot, hevent, ⟨probe, hmember, hslot, hflight, member, hfound, hseen⟩, -⟩ :=
      System.write_of_step? hnow hprobe hchanged
    obtain ⟨origin, horigin, hplace, hnoted, hbefore⟩ := hdescends probe hmember
    exact ⟨slot, hevent, origin, horigin, hplace.trans hslot, hbefore hflight, member, hfound,
      hseen.trans hnoted.symm⟩
  · exact System.not_writes_again hlate hafter hover hsplit
  · intro slot probe config started member hprobe hphase hmember hseen report
    obtain ⟨more, write, text, hmore, hevents, -, -, hwritten⟩ :=
      System.course_late hprobe hphase hmember hseen report
    exact ⟨_, _, text, hmore, hevents, hwritten⟩

namespace System

/-- A fleet that was just started, in its first round. -/
def inFirstRound (fleet : Fleet) (phase : MonitorPhase) (probes : List Probe) : System :=
  { ofStart fleet 0 with
    monitor := {
      interval := 0
      due := nextTick fleet.clock.instant fleet.clock.instant 0
      phase }
    probes }

theorem step?_tick_ofStart {fleet : Fleet} (hwatched : fleet.stopFired = false) :
    (ofStart fleet 0).step? .tick = some (inFirstRound fleet (.looking 0 []) [], []) := by
  simp [step?, step?.onWatching, Watching.tick?, watching, inFirstRound, ofStart, withWatching,
    hwatched]

/-- The monitor sees the first member run. -/
theorem step?_survey_inFirstRound {fleet : Fleet} {member : Member}
    (hmember : fleet.member? 0 = some member) (hrunning : member.running = true) :
    (inFirstRound fleet (.looking 0 []) []).step? .survey =
      some (inFirstRound fleet (.noting 0 []) [], []) := by
  simp [step?, step?.onWatching, Watching.survey?, watching, inFirstRound, ofStart, withWatching,
    hmember, hrunning, Watching.setPhase]

/-- The probe of the only member of a fleet, while it asks. -/
def askingProbe (fleet : Fleet) (member : Member) : Probe where
  slot := 0
  seen := member.transition.instant
  phase := .asking member.config fleet.clock.wall

/-- The monitor is over while the only member of a fleet is asked. -/
def cutShort (fleet : Fleet) (member : Member) : System :=
  { inFirstRound
      { fleet with shutDown := true, rootFired := true, stopFired := true, doneFired := true }
      .over [{ askingProbe fleet member with abandoned := true }] with
    calls := [⟨0, .shutdown, .draining⟩]
    made := 1 }

/-- A shutdown may come while the only member of a fleet is asked in the first round, and then the
monitor is over at once. -/
theorem course_cutShort {fleet : Fleet} {member : Member} (hmembers : fleet.members = [member])
    (hrunning : member.running = true) (hwatched : fleet.stopFired = false)
    (hopen : fleet.shutDown = false) :
    ∃ moments, Course step? (ofStart fleet 0) moments (cutShort fleet member) := by
  let watch : Watch := ⟨0, member.transition.instant⟩
  let asking : List Probe := [askingProbe fleet member]
  let told : Fleet := { fleet with shutDown := true, rootFired := true, stopFired := true }
  have hmember : fleet.member? 0 = some member := by rw [Fleet.member?, hmembers]; rfl
  have hnone : fleet.member? 1 = none := by rw [Fleet.member?, hmembers]; rfl
  have hnote : (inFirstRound fleet (.noting 0 []) []).step? .survey =
      some (inFirstRound fleet (.looking 1 [watch]) [watch.probe], []) := by
    simp [step?, step?.onWatching, Watching.survey?, watching, inFirstRound, ofStart, withWatching,
      hmember, Watching.setPhase, watch, Watch.probe]
  have hgather : (inFirstRound fleet (.looking 1 [watch]) [watch.probe]).step? .survey =
      some (inFirstRound fleet (.joining [watch]) [watch.probe], []) := by
    simp [step?, step?.onWatching, Watching.survey?, watching, inFirstRound, ofStart, withWatching,
      hnone, Watching.setPhase]
  have hask : (inFirstRound fleet (.joining [watch]) [watch.probe]).step? (.probe 0) =
      some (inFirstRound fleet (.joining [watch]) asking, [.probe 0 member.config]) := by
    simp [step?, Watching.advance?, Watching.probe?, Watching.setProbe, watching, inFirstRound,
      ofStart, withWatching, hmember, watch, Watch.probe, asking, askingProbe]
  have hcall : (inFirstRound fleet (.joining [watch]) asking).step? (.call .shutdown) =
      some ({ inFirstRound told (.joining [watch]) asking with
        calls := [⟨0, .shutdown, .draining⟩], made := 1 }, []) := by
    simp [step?, Calling.make, calling, ofStart, withCalling, inFirstRound, hopen, told]
  have hquit : ({ inFirstRound told (.joining [watch]) asking with
      calls := [⟨0, .shutdown, .draining⟩], made := 1 } : System).step? .quit =
      some (cutShort fleet member, []) := rfl
  have hround := ((Course.single (step?_tick_ofStart hwatched)).append
    (.single (step?_survey_inFirstRound hmember hrunning))).append (.single hnote)
  exact ⟨_, (((hround.append (.single hgather)).append (.single hask)).append
    (.single hcall)).append (.single hquit)⟩

end System

/-- The smallest fleet is shut down in its first round. -/
theorem solo_probe_in_flight_outlives_monitor :
    ∃ fleet moments last, Started soloSettings fleet ∧
      Course System.step? (System.ofStart fleet 0) moments last ∧ last.fleet.doneFired = true ∧
      ∃ early done late, moments = early ++ done :: late ∧ done.IsDone ∧
        ∀ moment ∈ late, ¬ moment.event.IsOfLoop := by
  obtain ⟨fleet, member, handle, hstarted, hmembers, -⟩ :=
    started_soloAt rfl prepareDirectory_solo
  have hmember : fleet.member? 0 = some member := by rw [Fleet.member?, hmembers]; rfl
  obtain ⟨moments, hcourse⟩ := System.course_cutShort hmembers (hstarted.running hmember)
    hstarted.fledgling.watched hstarted.fledgling.isOpen
  obtain ⟨early, done, late, hmoments, hdone, hloop, -⟩ :=
    probes_in_flight_outlive_monitor hstarted hcourse rfl
  exact ⟨fleet, moments, _, hstarted, hcourse, rfl, early, done, late, hmoments, hdone, hloop⟩

/-- So it does not hold that no probe changes a record any more once the monitor has told that it is
over. -/
theorem not_every_monitor_outlives_its_probes :
    ¬ ∀ settings fleet tick moments last, Started settings fleet →
      Course System.step? (System.ofStart fleet tick) moments last →
      ∀ moment ∈ moments, moment.before.fleet.doneFired = true → moment.event.IsOfProbe →
        moment.after.fleet.members = moment.before.fleet.members := by
  intro hquiet
  obtain ⟨fleet, member, handle, hstarted, hmembers, -⟩ :=
    started_soloAt rfl prepareDirectory_solo
  have hmember : fleet.member? 0 = some member := by rw [Fleet.member?, hmembers]; rfl
  obtain ⟨moments, hcourse⟩ := System.course_cutShort hmembers (hstarted.running hmember)
    hstarted.fledgling.watched hstarted.fledgling.isOpen
  -- The member then answers with more data than its record shows.
  have hprobe : (System.cutShort fleet member).watching.probe? 0 =
      some { System.askingProbe fleet member with abandoned := true } := rfl
  obtain ⟨early, write, text, hlate, -, hevent, hbefore, hafter⟩ :=
    System.course_late hprobe rfl hmember rfl ⟨⟨1, 1, member.status.dbSize + 1⟩, 0⟩
  have hsame : write.after.fleet.members = write.before.fleet.members :=
    hquiet _ _ _ _ _ hstarted (hcourse.append hlate) write
      (List.mem_append_right _ (List.mem_append_right _ List.mem_cons_self))
      (by rw [hbefore]; rfl) (by rw [hevent]; trivial)
  rw [Fleet.member?, hsame, hbefore, show (System.cutShort fleet member).fleet.members[0]? =
    some member from hmember] at hafter
  have hsize : member.status.dbSize = member.status.dbSize + 1 :=
    congrArg (·.status.dbSize) (Option.some.inj hafter)
  omega

end FleetControl
