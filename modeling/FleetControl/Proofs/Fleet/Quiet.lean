import FleetControl.Proofs.Fleet.Ownership
import FleetControl.Proofs.Fleet.Probes

/-!
# What the record of a stopped member shows

A stop clears the snapshot of its member, and the reports of probes that began before the stop are
refused. The monitor sees in one step that a member runs and notes its last transition in another
one, however. A stop that falls in between is taken for an old one: the probe that begins then has
noted the stop itself, and whatever it reports is written to the record of the stopped member.
-/

namespace FleetControl

/-- What a snapshot shows of a member that is stopped. -/
structure MemberStatus.Quiet (status : MemberStatus) : Prop where
  state : status.state = .stopped
  isLeader : status.isLeader = false
  dbSize : status.dbSize = 0
  hash : status.hash = 0

theorem MemberStatus.quiet_setStopped (status : MemberStatus) (text : String) :
    (status.setStopped text).Quiet := ⟨rfl, rfl, rfl, rfl⟩

/-- The record in a slot shows a stopped member. -/
def Fleet.Quiet (fleet : Fleet) (slot : Nat) : Prop :=
  ∀ member, fleet.member? slot = some member → member.status.Quiet

namespace Fleet.Quiet

variable {fleet : Fleet} {slot : Nat}

theorem changeMember (hquiet : fleet.Quiet slot) {other : Nat} {change : Member → Member}
    (hchange : ∀ member, other = slot → fleet.member? slot = some member →
      member.status.Quiet → (change member).status.Quiet) :
    (fleet.changeMember other change).Quiet slot := by
  intro member hmember
  rcases member?_changeMember_cases hmember with ⟨hother, old, hold, rfl⟩ | ⟨-, hmember⟩
  · exact hchange old hother hold (hquiet old hold)
  · exact hquiet member hmember

theorem degrade (hquiet : fleet.Quiet slot) (other : Nat) (seen : Nanos) (activity : String)
    (started : Int) (cause : String) :
    (fleet.degrade other seen activity started cause).Quiet slot := by
  unfold Fleet.degrade
  cases hmember : fleet.member? other with
  | none => exact hquiet
  | some member =>
      dsimp only
      unfold Member.markUnreachable Member.updateStatusSince
      by_cases hseen : member.transition.instant = seen
      · simp only [if_pos hseen]
        exact hquiet.changeMember fun _ _ _ _ => member.status.quiet_setStopped _
      · simp only [if_neg hseen]
        exact hquiet

theorem outside {next : Fleet} {event : Outside} (hquiet : fleet.Quiet slot)
    (hevent : fleet.outside? event = some next) : next.Quiet slot := by
  cases event with
  | time clock =>
      simp only [Fleet.outside?, Option.ite_none_right_eq_some, Option.some.injEq] at hevent
      obtain ⟨-, rfl⟩ := hevent
      exact hquiet
  | fireRoot =>
      obtain rfl := Option.some.inj hevent
      exact hquiet
  | touch files =>
      obtain rfl := Option.some.inj hevent
      exact hquiet

/-- The monitor keeps a record quiet unless a probe has noted its last transition. -/
theorem move {watching next : Watching} {commands : List Command}
    (hquiet : watching.fleet.Quiet slot) (hmove : watching.Move next commands)
    (hstale : ∀ probe ∈ watching.probes, probe.slot = slot → ∀ member,
      watching.fleet.member? slot = some member → member.transition.instant ≠ probe.seen) :
    next.fleet.Quiet slot := by
  cases hmove with
  | tick | gather | look | note | rest | join | quit | ask | answer | word | discard | drop =>
      exact hquiet
  | refresh =>
      refine hquiet.changeMember fun member _ _ hbefore => ?_
      unfold Member.refreshStoppedText
      split
      next => exact hbefore
      next => exact ⟨hbefore.state, hbefore.isLeader, hbefore.dbSize, hbefore.hash⟩
  | recover => exact hquiet.degrade _ _ _ _ _
  | @fail other probe fault =>
      have hcounted : (watching.fleet.recordProbeFailure other fault.stage).Quiet slot := hquiet
      exact hcounted.degrade _ _ _ _ _
  | @commit other probe member config report text hprobe hmember hphase hseen =>
      refine Quiet.changeMember hquiet fun old hother hold _ => ?_
      subst hother
      have hslot : probe.slot = other := by simpa using List.find?_some hprobe
      exact absurd hseen (hstale probe (List.mem_of_find?_eq_some hprobe) hslot member hmember)

end Fleet.Quiet

/-- No transition of a slot's member is recorded. -/
def Unmarked (slot : Nat) (moments : List (Moment System Event)) : Prop :=
  ∀ moment ∈ moments, ∀ kind, moment.before.recorded? moment.event ≠ some (slot, kind)

theorem unmarked_singleton {slot : Nat} {moment : Moment System Event} :
    Unmarked slot [moment] ↔
      ∀ kind, moment.before.recorded? moment.event ≠ some (slot, kind) := by
  simp [Unmarked]

namespace System

variable {system next : System} {event : Event} {commands : List Command} {slot : Nat}

/-- A member is stopped, its record says so, and no probe of it may write anything else. -/
structure Resting (system : System) (slot : Nat) : Prop where
  orderly : system.Orderly
  quiet : system.fleet.Quiet slot
  unseen : ∀ begun, system.monitor.phase ≠ .noting slot begun
  stopped : ∀ member, system.fleet.member? slot = some member → member.running = false
  stale : ∀ probe ∈ system.probes, probe.slot = slot → ∀ member,
    system.fleet.member? slot = some member → member.transition.instant ≠ probe.seen

/-- Until its next transition the member goes on resting. -/
theorem Resting.step (resting : system.Resting slot)
    (hstep : system.step? event = some (next, commands))
    (hmark : ∀ kind, system.recorded? event ≠ some (slot, kind)) : next.Resting slot := by
  obtain ⟨horderly, hstepped⟩ := step_of_step? resting.orderly hstep
  have hstopped : ∀ member, next.fleet.member? slot = some member → member.running = false := by
    intro member hmember
    obtain ⟨old, hold, -, hrunning⟩ := hstepped.standing_eq hmark hmember
    exact hrunning.trans (resting.stopped old hold)
  have hstale : ∀ probe ∈ system.probes, probe.slot = slot → ∀ member,
      next.fleet.member? slot = some member → member.transition.instant ≠ probe.seen := by
    intro probe hprobe hslot member hmember
    obtain ⟨old, hold, htransition, -⟩ := hstepped.standing_eq hmark hmember
    rw [htransition]
    exact resting.stale probe hprobe hslot old hold
  cases hstepped with
  | turn hturn _ hmonitor hprobes =>
      refine ⟨horderly, ?_, hmonitor ▸ resting.unseen, hstopped, hprobes ▸ hstale⟩
      intro member hmember
      obtain ⟨old, hold, hturned⟩ := hturn.exists_member? hmember
      exact hturned.status_eq hmark ▸ resting.quiet old hold
  | move hmove =>
      refine ⟨horderly, resting.quiet.move hmove resting.stale, ?_, hstopped, ?_⟩
      · -- The monitor looks before it notes, and sees that the member does not run.
        intro begun hphase
        rcases hmove.running_of_noting hphase with hbefore | ⟨member, hmember, hrunning⟩
        · exact resting.unseen begun hbefore
        · simp [resting.stopped member hmember] at hrunning
      · intro probe hprobe hslot member hmember
        rcases hmove.probe_origin hprobe with
          ⟨origin, horigin, hsame, hseen⟩ | ⟨begun, _, hphase, -⟩
        · rw [← hseen]
          exact hstale origin horigin (hsame.trans hslot) member hmember
        · exact absurd (hslot ▸ hphase) (resting.unseen begun)
  | outside houtside _ _ _ _ hmonitor hprobes =>
      exact ⟨horderly, resting.quiet.outside houtside, hmonitor ▸ resting.unseen, hstopped,
        hprobes ▸ hstale⟩

theorem Resting.course {first last : System} {moments : List (Moment System Event)}
    (resting : first.Resting slot) (hcourse : Course step? first moments last)
    (hunmarked : Unmarked slot moments) : last.Resting slot := by
  induction hcourse with
  | start => exact resting
  | next _ hstep ih =>
      obtain ⟨hearly, hlast⟩ := List.forall_mem_append.mp hunmarked
      exact (ih hearly).step hstep (unmarked_singleton.mp hlast)

/-- A stop leaves its member resting, unless the monitor has just seen it run. -/
theorem Attended.resting (attended : system.Attended)
    (hstep : system.step? event = some (next, commands))
    (hmark : system.recorded? event = some (slot, .stop))
    (hunseen : ∀ begun, system.monitor.phase ≠ .noting slot begun) : next.Resting slot := by
  obtain ⟨horderly, hstepped⟩ := step_of_step? attended.orderly hstep
  have hturn := hstepped.turn_of_recorded hmark
  obtain ⟨hmonitor, hprobes⟩ := hstepped.watching_of_recorded hmark
  refine ⟨horderly, ?_, hmonitor ▸ hunseen, ?_, ?_⟩
  · intro member hmember
    obtain ⟨old, -, hturned⟩ := hturn.exists_member? hmember
    cases hturned with
    | stopped => exact old.status.quiet_setStopped _
    | kept hkept => exact absurd rfl (hkept _)
  · intro member hmember
    obtain ⟨old, -, hturned⟩ := hturn.exists_member? hmember
    exact hturned.running_eq
  · intro probe hprobe hslot member hmember
    obtain ⟨old, hold, hturned⟩ := hturn.exists_member? hmember
    -- The stop waited for the cooldown, so it comes strictly after what the probe has noted.
    have hnoted := attended.noted probe (hprobes ▸ hprobe) old (hslot ▸ hold)
    have hcool := attended.timed.cool_of_turn hturn (by simp) old hold
    have hbefore : probe.seen < system.fleet.clock.instant :=
      Nat.lt_of_le_of_lt hnoted (Nat.lt_of_le_of_lt (Nat.le_add_right ..) hcool)
    rw [hturned.transition_eq]
    exact Nat.ne_of_gt hbefore

/-- A system whose monitor has noted a transition at `seen` and begun a probe, which has come to a
phase. -/
def probing (system : System) (slot : Nat) (begun : List Watch) (seen : Nanos)
    (phase : ProbePhase) : System :=
  { system with
    monitor := { system.monitor with phase := .looking (slot + 1) (begun ++ [⟨slot, seen⟩]) }
    probes := system.probes ++ [{ slot, seen, phase }] }

section Probing

variable {begun : List Watch} {seen : Nanos} {phase : ProbePhase}
  (hfresh : ∀ probe ∈ system.probes, probe.slot ≠ slot)

include hfresh

theorem probe?_probing : (system.probing slot begun seen phase).watching.probe? slot =
    some { slot, seen, phase } := by
  have hnone : system.probes.find? (·.slot = slot) = none := by
    simpa [List.find?_eq_none] using hfresh
  simp [Watching.probe?, watching, probing, hnone]

theorem setProbe_probing (other : ProbePhase) :
    (system.probing slot begun seen phase).watching.setProbe { slot, seen, phase := other } =
      (system.probing slot begun seen other).watching := by
  have hmap : system.probes.map (fun probe =>
      if probe.slot = slot then ({ slot, seen, phase := other } : Probe) else probe) =
      system.probes :=
    (List.map_congr_left fun probe hprobe => if_neg (hfresh probe hprobe)).trans (List.map_id' _)
  simp [Watching.setProbe, watching, probing, hmap]

end Probing

/-- Everything that happens between the note of a transition and the report of a healthy member in
its record. -/
def visit (slot : Nat) (report : ProbeReport) : List Event :=
  [.survey, .probe slot, .answered slot (.reply (.ok report)), .probe slot, .probe slot]

/-- Where the monitor is about to note a transition, only the member's answer is missing for its
report to be written to its record. Until then the fleet stays as it is. -/
theorem course_visit_unchanged {member : Member} {begun : List Watch}
    (hphase : system.monitor.phase = .noting slot begun)
    (hmember : system.fleet.member? slot = some member)
    (hfresh : ∀ probe ∈ system.probes, probe.slot ≠ slot) (report : ProbeReport) :
    ∃ moments last, Course step? system moments last ∧
      moments.map (·.event) = visit slot report ∧
      (∀ moment ∈ moments, moment.before.fleet = system.fleet) ∧
      last.fleet.shutDown = system.fleet.shutDown ∧
      last.fleet.member? slot = some (member.updateStatus
        (·.commit member.config.clientUrl (member.healthyText system.fleet.clock.wall)
          report)) := by
  let config := member.config
  let wall := system.fleet.clock.wall
  let text := member.healthyText wall
  let reached := system.probing slot begun member.transition.instant
  let final : System :=
    { reached .finished with
      fleet := (system.fleet.changeMember slot fun _ =>
        member.updateStatus (·.commit config.clientUrl text report)).recordState slot
          (.ofLeadership report.status.isLeader) report.status.dbSize }
  have hprobe : ∀ phase, (reached phase).watching.probe? slot =
      some { slot, seen := member.transition.instant, phase } :=
    fun _ => probe?_probing hfresh
  have hset : ∀ phase other, (reached phase).watching.setProbe
      { slot, seen := member.transition.instant, phase := other } = (reached other).watching :=
    fun _ other => setProbe_probing hfresh other
  have hsame : ∀ phase, (reached phase).watching.fleet.member? slot = some member :=
    fun _ => hmember
  have hsurvey : system.step? .survey = some (reached .begun, []) := by
    simp [step?, step?.onWatching, Watching.survey?, watching, hphase, hmember, reached, probing,
      withWatching, Watching.setPhase]
  have hask : (reached .begun).step? (.probe slot) =
      some (reached (.asking config wall), [.probe slot config]) := by
    simp only [step?, Watching.advance?, hprobe, hsame, hset, Option.bind_eq_bind,
      Option.bind_some, Option.map_some]
    rfl
  have hanswer : (reached (.asking config wall)).step? (.answered slot (.reply (.ok report))) =
      some (reached (.healthy config report), []) := by
    simp only [step?, Watching.answered?, hprobe, hset, Option.bind_eq_bind, Option.bind_some,
      Option.map_some]
    rfl
  have hword : (reached (.healthy config report)).step? (.probe slot) =
      some (reached (.committing config report text), []) := by
    simp only [step?, Watching.advance?, hprobe, hsame, hset, Option.bind_eq_bind,
      Option.bind_some, Option.map_some]
    rfl
  -- The probe carries the time that the record still has, so its report is not refused.
  have hcommit : (reached (.committing config report text)).step? (.probe slot) =
      some (final, []) := by
    simp only [step?, Watching.advance?, hprobe, hsame, hset, Option.bind_eq_bind,
      Option.bind_some, Option.map_some, Member.updateStatusSince, if_pos]
    rfl
  refine ⟨_, final, .next (.next (.next (.next (.single hsurvey) hask) hanswer) hword) hcommit,
    rfl, ?_, rfl, ?_⟩
  · simp [reached, probing]
  have hwritten := system.fleet.member?_changeMember_self slot fun _ =>
    member.updateStatus (·.commit config.clientUrl text report)
  rw [hmember, Option.map_some] at hwritten
  exact hwritten

theorem course_visit {member : Member} {begun : List Watch}
    (hphase : system.monitor.phase = .noting slot begun)
    (hmember : system.fleet.member? slot = some member)
    (hfresh : ∀ probe ∈ system.probes, probe.slot ≠ slot) (report : ProbeReport) :
    ∃ moments last, Course step? system moments last ∧
      moments.map (·.event) = visit slot report ∧
      last.fleet.shutDown = system.fleet.shutDown ∧
      last.fleet.member? slot = some (member.updateStatus
        (·.commit member.config.clientUrl (member.healthyText system.fleet.clock.wall)
          report)) := by
  obtain ⟨moments, last, hcourse, hevents, -, hlast⟩ :=
    course_visit_unchanged hphase hmember hfresh report
  exact ⟨moments, last, hcourse, hevents, hlast⟩

/-- The calls have no part in it. -/
theorem unmarked_visit {moments : List (Moment System Event)} {report : ProbeReport}
    (hevents : moments.map (·.event) = visit slot report) (other : Nat) :
    Unmarked other moments := by
  intro moment hmoment kind
  have hevent : moment.event ∈ visit slot report := hevents ▸ List.mem_map_of_mem hmoment
  simp only [visit, List.mem_cons, List.not_mem_nil, or_false] at hevent
  rcases hevent with hevent | hevent | hevent | hevent | hevent <;>
    simp [hevent, recorded?, Calling.recorded?]

/-- A stop that the monitor has just missed leaves nothing but the member's answer missing. -/
theorem Attended.exists_visit (attended : system.Attended)
    (hstep : system.step? event = some (next, commands))
    (hmark : system.recorded? event = some (slot, .stop)) {begun : List Watch}
    (hphase : system.monitor.phase = .noting slot begun) (report : ProbeReport) :
    ∃ more final member, Course step? next more final ∧
      more.map (·.event) = visit slot report ∧ Unmarked slot more ∧
      final.fleet.member? slot = some member ∧ member.running = false ∧
      member.status.state = .ofLeadership report.status.isLeader := by
  obtain ⟨-, hstepped⟩ := step_of_step? attended.orderly hstep
  have hturn := hstepped.turn_of_recorded hmark
  obtain ⟨hmonitor, hprobes⟩ := hstepped.watching_of_recorded hmark
  obtain ⟨id, due, hunderway⟩ := hturn.exists_stop
  have hslot : slot < system.fleet.members.length :=
    attended.orderly.fitting _ (Calling.underway?_mem hunderway)
  rw [← hstepped.size_eq] at hslot
  obtain ⟨member, hmember⟩ := Fleet.exists_member? hslot
  obtain ⟨old, -, hturned⟩ := hturn.exists_member? hmember
  obtain ⟨more, final, hmore, hevents, -, hwritten⟩ :=
    course_visit (hmonitor ▸ hphase) hmember (hprobes ▸ attended.tidy.fresh hphase) report
  exact ⟨more, final, _, hmore, hevents, unmarked_visit hevents slot, hwritten,
    hturned.running_eq, rfl⟩

end System

namespace Started

variable {settings : FleetSettings} {fleet : Fleet} {tick : Nanos}
  {moments : List (Moment System Event)} {last : System}

/-- While no shutdown was called, a member that does not run has been stopped, and not restarted
since. -/
theorem last_stop (hstarted : Started settings fleet)
    (hcourse : Course System.step? (System.ofStart fleet tick) moments last)
    (hopen : last.fleet.shutDown = false) {slot : Nat} {member : Member}
    (hmember : last.fleet.member? slot = some member) (hstopped : member.running = false) :
    ∃ early stop late, moments = early ++ stop :: late ∧
      stop.before.recorded? stop.event = some (slot, .stop) ∧ Unmarked slot late := by
  induction hcourse generalizing member with
  | start => simp [hstarted.running hmember] at hstopped
  | @next moments last after event commands earlier hstep ih =>
      obtain ⟨notes, start, kept, hphase, hfleet⟩ := hstarted.exists_kept
      have sound := (hfleet ▸ kept.sound hphase tick).course earlier
      obtain ⟨-, hstepped⟩ := System.step_of_step? sound.orderly hstep
      have hbefore := hstepped.isOpen hopen
      -- The last transition of the slot decides; without one, the course before does.
      by_cases hmark : ∃ kind, last.recorded? event = some (slot, kind)
      · obtain ⟨kind, hmark⟩ := hmark
        have hturn := hstepped.turn_of_recorded hmark
        rcases hturn.kind_cases with rfl | rfl | ⟨call, hunderway, hoperation⟩
        · exact ⟨moments, ⟨last, event, commands, after⟩, [], rfl, hmark, List.forall_mem_nil _⟩
        · obtain ⟨old, -, hturned⟩ := hturn.exists_member? hmember
          simp [hturned.running_eq] at hstopped
        · simp [sound.shutting.shut_of_underway hunderway hoperation] at hbefore
      · have hnone : ∀ kind, last.recorded? event ≠ some (slot, kind) :=
          fun kind hkind => hmark ⟨kind, hkind⟩
        obtain ⟨old, hold, -, hrunning⟩ := hstepped.standing_eq hnone hmember
        obtain ⟨early, stop, late, rfl, hstop, hlate⟩ :=
          ih hbefore hold (hrunning.symm.trans hstopped)
        exact ⟨early, stop, late ++ [⟨last, event, commands, after⟩], by simp, hstop,
          List.forall_mem_append.mpr ⟨hlate, unmarked_singleton.mpr hnone⟩⟩

/-- The monitor may see the first member run just before its first stop. -/
theorem course_slipped (hstarted : Started settings fleet) {first : Member}
    (hmember : fleet.member? 0 = some first) (tick : Nanos) :
    ∃ moments stop, Course System.step? (System.ofStart fleet tick) (moments ++ [stop]) stop.after ∧
      stop.before.recorded? stop.event = some (0, .stop) ∧
      stop.before.monitor.phase = .noting 0 [] ∧ stop.after.monitor.phase = .noting 0 [] ∧
      stop.after.probes = [] ∧ stop.after.fleet.shutDown = false ∧
      ∃ member, stop.after.fleet.member? 0 = some member ∧ member.running = false := by
  have hslot := Fleet.slot_lt hmember
  obtain ⟨handle, hprocess⟩ := hstarted.process? hmember
  obtain ⟨early, hearly⟩ := System.course_cooled tick hslot hprocess
  obtain ⟨round, due, hround⟩ := System.course_noting tick hmember (hstarted.running hmember)
    hstarted.fledgling.watched
  let before : System :=
    { System.cooled fleet 0 tick with
      monitor := { interval := tick, due, phase := .noting 0 [] } }
  have hdue : Calling.cooledAt fleet 0 ≤ before.fleet.clock.instant := Nat.le_max_left ..
  have hsame : before.fleet.process? 0 = some handle := hprocess
  obtain ⟨after, hstep, hmark, hafter⟩ := before.stops rfl hdue hsame
  have hfleet : after.fleet = before.fleet.release 0 .stop := congrArg Watching.fleet hafter
  have hmonitor : after.monitor = before.monitor := congrArg Watching.monitor hafter
  have hprobes : after.probes = before.probes := congrArg Watching.probes hafter
  refine ⟨early ++ round, ⟨before, .advance 0, _, after⟩, .next (hearly.append hround) hstep,
    hmark, rfl, ?_, hprobes, ?_, first.markStopped before.fleet.clock, ?_, rfl⟩
  · rw [hmonitor]
  · rw [hfleet]
    exact hstarted.fledgling.isOpen
  · rw [hfleet]
    have hreleased := before.fleet.member?_changeMember_self 0 (·.markStopped before.fleet.clock)
    rw [show before.fleet.member? 0 = some first from hmember] at hreleased
    exact hreleased

end Started

/-- In a started fleet, whatever is called and whenever: unless a stop falls between the monitor's
look at its member and the note of its last transition, the record shows a stopped member from the
stop on until the next transition. If it does fall there, the record comes to show whatever the
member still answers, with no further transition. While no shutdown was called, nothing else makes
the record of a member that does not run show anything but a stopped one. -/
theorem stopped_members_are_quiet_unless_just_seen {settings : FleetSettings} {fleet : Fleet}
    (hstarted : Started settings fleet) {tick : Nanos} {moments : List (Moment System Event)}
    {last : System} (hcourse : Course System.step? (System.ofStart fleet tick) moments last)
    (slot : Nat) :
    (∀ stop ∈ moments, stop.before.recorded? stop.event = some (slot, .stop) →
      ((∀ begun, stop.before.monitor.phase ≠ .noting slot begun) →
        ∀ more final, Course System.step? stop.after more final → Unmarked slot more →
        final.fleet.Quiet slot) ∧
      (∀ begun, stop.before.monitor.phase = .noting slot begun → ∀ report,
        ∃ more final member, Course System.step? stop.after more final ∧
          more.map (·.event) = System.visit slot report ∧ Unmarked slot more ∧
          final.fleet.member? slot = some member ∧ member.running = false ∧
          member.status.state = .ofLeadership report.status.isLeader)) ∧
    (last.fleet.shutDown = false → ∀ member, last.fleet.member? slot = some member →
      member.running = false → ¬ member.status.Quiet →
      ∃ early stop late, moments = early ++ stop :: late ∧
        stop.before.recorded? stop.event = some (slot, .stop) ∧ Unmarked slot late ∧
        ∃ begun, stop.before.monitor.phase = .noting slot begun) := by
  constructor
  · intro stop hstop hmark
    obtain ⟨early, late, -, hearly, hstep, -⟩ := hcourse.cut hstop
    have attended := (hstarted.attended tick).course hearly
    constructor
    · intro hunseen more final hmore hunmarked
      have resting := attended.resting hstep hmark hunseen
      exact (resting.course hmore hunmarked).quiet
    · intro begun hphase
      exact attended.exists_visit hstep hmark hphase
  · intro hopen member hmember hstopped hloud
    obtain ⟨early, stop, late, rfl, hmark, hlate⟩ :=
      hstarted.last_stop hcourse hopen hmember hstopped
    refine ⟨early, stop, late, rfl, hmark, hlate, ?_⟩
    by_contra hunseen
    obtain ⟨hearly, hstep, hrest⟩ := hcourse.at_moment
    have attended := (hstarted.attended tick).course hearly
    have resting := attended.resting hstep hmark fun begun hphase => hunseen ⟨begun, hphase⟩
    exact hloud ((resting.course hrest hlate).quiet member hmember)

/-- The only member of the smallest fleet is stopped just after the monitor has seen it run, and
leads after that. -/
theorem solo_stopped_member_leads :
    ∃ fleet moments last, Started soloSettings fleet ∧
      Course System.step? (System.ofStart fleet 0) moments last ∧
      ∃ more final member, Course System.step? last more final ∧ Unmarked 0 more ∧
        final.fleet.member? 0 = some member ∧ member.running = false ∧
        member.status.state = .leader := by
  obtain ⟨fleet, first, hstarted, hfirst⟩ := started_solo
  obtain ⟨moments, stop, hcourse, hmark, hphase, -⟩ := hstarted.course_slipped hfirst 0
  have hstops := (stopped_members_are_quiet_unless_just_seen hstarted hcourse 0).1
  obtain ⟨more, final, member, hmore, -, hunmarked, hmember, hstopped, hleader⟩ :=
    (hstops stop (List.mem_append_right _ List.mem_cons_self) hmark).2 [] hphase
      ⟨⟨1, 1, 0⟩, 0⟩
  exact ⟨fleet, _, stop.after, hstarted, hcourse, more, final, member, hmore, hunmarked, hmember,
    hstopped, hleader⟩

/-- So it does not hold that the record of a member that does not run shows a stopped one, not even
where no shutdown was called. -/
theorem not_all_stopped_members_quiet :
    ¬ ∀ settings fleet tick moments last slot member, Started settings fleet →
      Course System.step? (System.ofStart fleet tick) moments last →
      last.fleet.shutDown = false → last.fleet.member? slot = some member →
      member.running = false → member.status.Quiet := by
  intro hquiet
  obtain ⟨fleet, first, hstarted, hfirst⟩ := started_solo
  obtain ⟨moments, stop, hcourse, -, -, hphase, hprobes, hopen, member, hmember, hstopped⟩ :=
    hstarted.course_slipped hfirst 0
  obtain ⟨more, final, hmore, -, hshut, hwritten⟩ :=
    System.course_visit hphase hmember (by simp [hprobes]) ⟨⟨1, 1, 0⟩, 0⟩
  have hstate := (hquiet _ _ _ _ _ _ _ hstarted (hcourse.append hmore) (hshut.trans hopen)
    hwritten hstopped).state
  simp [Member.updateStatus, MemberStatus.commit, MemberStatus.setLeadership,
    MemberState.ofLeadership, StatusReport.isLeader, StatusReport.hasLeader] at hstate

end FleetControl
