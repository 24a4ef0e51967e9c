import FleetControl.Proofs.Fleet.Aftermath
import FleetControl.Proofs.Fleet.Isolation
import FleetControl.Proofs.Fleet.Quiet
import FleetControl.Proofs.Fleet.Titles

/-!
# Degradation heals

A probe that fails degrades its member, and so does one that unwinds. Neither leaves a trace beyond
the next probe that succeeds: it writes every part of the snapshot, and reads of the record only
what stays between two transitions.
-/

namespace FleetControl

/-- The configuration that a probe has asked with. -/
def ProbePhase.config? : ProbePhase → Option MemberConfig
  | .asking config _ => some config
  | .healthy config _ => some config
  | .committing config _ _ => some config
  | .begun => none
  | .failing .. => none
  | .finished => none
  | .unwound _ => none

/-- The probe has a report that it has not written yet. -/
def ProbePhase.isReported : ProbePhase → Bool
  | .healthy .. => true
  | .committing .. => true
  | .begun => false
  | .asking .. => false
  | .failing .. => false
  | .finished => false
  | .unwound _ => false

namespace Member

variable {member other : Member}

/-- The snapshot of a member of which a probe has just made this report at this wall time. -/
def healed (member : Member) (report : ProbeReport) (wall : Int) : MemberStatus where
  name := member.name
  id := report.status.memberIdHex
  endpoint := member.config.clientUrl
  isLeader := report.status.isLeader
  state := .ofLeadership report.status.isLeader
  stateText := member.healthyText wall
  dbSize := report.status.dbSize
  dbSizeText := Text.byteSize report.status.dbSize
  hash := report.hash

/-- The configuration is not part of the snapshot. -/
theorem config_eq (hstanding : member.standing = other.standing) : member.config = other.config :=
  show member.standing.config = other.standing.config by rw [hstanding]

theorem healthyText_eq (hstanding : member.standing = other.standing) (wall : Int) :
    member.healthyText wall = other.healthyText wall :=
  show member.standing.healthyText wall = other.standing.healthyText wall by rw [hstanding]

/-- It is a matter of the rest of the record. -/
theorem healed_eq (hstanding : member.standing = other.standing) (report : ProbeReport)
    (wall : Int) : member.healed report wall = other.healed report wall :=
  show member.standing.healed report wall = other.standing.healed report wall by rw [hstanding]

/-- A report that is written leaves no part of the snapshot but the name. -/
theorem commit_eq_healed (titled : member.Titled) (report : ProbeReport) (wall : Int) :
    member.status.commit member.config.clientUrl (member.healthyText wall) report =
      member.healed report wall := by
  rw [healed, ← show member.status.name = member.name from titled]
  rfl

end Member

/-- Without a transition, and with the same configuration, the calls leave the record but for the
snapshot. -/
theorem Member.Turned.standing_of_config {slot : Nat} {clock : Clock} {old member : Member}
    {mark : Option Mark} (hturned : old.Turned slot clock mark member)
    (hmark : ∀ kind, mark ≠ some (slot, kind)) (hconfig : member.config = old.config) :
    member.standing = old.standing := by
  cases hturned with
  | stopped => exact absurd rfl (hmark _)
  | restarted => exact absurd rfl (hmark _)
  | @kept _ config =>
      obtain rfl : config = old.config := hconfig
      rfl

/-- The probe was begun, and has asked, since the last transition of a member. -/
structure Probe.Regards (probe : Probe) (member : Member) : Prop where
  seen : probe.seen = member.transition.instant
  config : ∀ config, probe.phase.config? = some config → config = member.config

namespace Watching

variable {watching next : Watching} {commands : List Command} {slot other : Nat}
  {old member : Member} {probe : Probe}

/-- All probes of a slot regard its member as it is. -/
def Regard (watching : Watching) (slot : Nat) (member : Member) : Prop :=
  ∀ probe ∈ watching.probes, probe.slot = slot → probe.Regards member

namespace Regard

theorem of_subset (regard : watching.Regard slot old)
    (hsubset : ∀ probe ∈ next.probes, probe ∈ watching.probes) : next.Regard slot old :=
  fun probe hprobe => regard probe (hsubset probe hprobe)

theorem kept (regard : watching.Regard slot old) (hprobes : next.probes = watching.probes) :
    next.Regard slot old :=
  regard.of_subset fun _ hprobe => hprobes ▸ hprobe

/-- A probe goes on with the configuration that it has, or with the one in force. -/
theorem setProbe (regard : watching.Regard slot old) (hprobe : watching.probe? other = some probe)
    {phase : ProbePhase} (hconfig : ∀ config, phase.config? = some config →
      probe.phase.config? = some config ∨ (other = slot → config = old.config))
    (hnext : next.probes = (watching.setProbe { probe with phase }).probes) :
    next.Regard slot old := by
  intro later hlater hslot
  rw [hnext] at hlater
  obtain ⟨origin, horigin, rfl⟩ := List.mem_map.mp hlater
  split at hslot
  next hhere =>
    rw [if_pos hhere]
    have hbefore := regard probe (List.mem_of_find?_eq_some hprobe) hslot
    refine ⟨hbefore.seen, fun config hasked => ?_⟩
    rcases hconfig config hasked with hsame | hnow
    · exact hbefore.config config hsame
    · exact hnow ((probe?_slot hprobe).symm.trans hslot)
  next hother =>
    rw [if_neg hother]
    exact regard origin horigin hslot

theorem move (regard : watching.Regard slot old) (hmove : watching.Move next commands)
    (hmember : watching.fleet.member? slot = some member)
    (hstanding : member.standing = old.standing) : next.Regard slot old := by
  cases hmove with
  | tick | gather | look | refresh | rest => exact regard.of_subset fun probe hprobe => hprobe
  | join | recover | drop =>
      exact regard.of_subset fun probe hprobe => (mem_of_mem_dropProbe hprobe).1
  | quit =>
      intro probe hprobe hslot
      obtain ⟨origin, horigin, rfl⟩ := List.mem_map.mp hprobe
      have hbefore := regard origin (List.mem_of_mem_filter horigin) hslot
      exact ⟨hbefore.seen, hbefore.config⟩
  | @note current begun noted _ hnoted =>
      intro probe hprobe hslot
      rcases List.mem_append.mp hprobe with hold | hnew
      · exact regard probe hold hslot
      · obtain rfl := List.mem_singleton.mp hnew
        obtain rfl : current = slot := hslot
        obtain rfl := Option.some.inj (hmember.symm.trans hnoted)
        exact ⟨congrArg Clock.instant (Member.transition_eq hstanding),
          by simp [ProbePhase.config?]⟩
  | @ask current probe asked hprobe hasked =>
      refine regard.setProbe hprobe (fun config hconfig => .inr fun hcurrent => ?_) rfl
      obtain rfl := Option.some.inj hconfig
      obtain rfl := Option.some.inj (hmember.symm.trans (hcurrent ▸ hasked))
      exact Member.config_eq hstanding
  | @answer current probe config started answer hprobe hphase =>
      refine regard.setProbe hprobe (fun other hconfig => .inl ?_) rfl
      rw [hphase, ← hconfig]
      split at hconfig
      next => simp [ProbePhase.config?] at hconfig
      next => rfl
      next => split at hconfig <;> simp [ProbePhase.config?] at hconfig
  | word hprobe _ hphase =>
      refine regard.setProbe hprobe (fun config hconfig => .inl ?_) rfl
      rw [hphase, ← hconfig]
      rfl
  | commit hprobe | discard hprobe | fail hprobe =>
      exact regard.setProbe hprobe (by simp [ProbePhase.config?]) rfl

end Regard

/-! ### A probe that has its report -/

/-- The probe of a slot has come to a phase. -/
def Reached (watching : Watching) (slot : Nat) (phase : ProbePhase) : Prop :=
  ∃ probe, watching.probe? slot = some probe ∧ probe.phase = phase

namespace Reached

variable {phase : ProbePhase}

theorem of_probe? (reached : watching.Reached slot phase)
    (hsame : next.probe? slot = watching.probe? slot) : next.Reached slot phase := by
  obtain ⟨probe, hprobe, hphase⟩ := reached
  exact ⟨probe, hsame.trans hprobe, hphase⟩

theorem kept (reached : watching.Reached slot phase) (hprobes : next.probes = watching.probes) :
    next.Reached slot phase :=
  reached.of_probe? (by rw [probe?, hprobes, probe?])

theorem of_setProbe (hprobe : watching.probe? slot = some probe) (phase : ProbePhase)
    (hnext : next.probes = (watching.setProbe { probe with phase }).probes) :
    next.Reached slot phase := by
  refine ⟨{ probe with phase }, ?_, rfl⟩
  rw [probe?, hnext]
  exact probe?_setProbe hprobe phase

theorem tick (reached : watching.Reached slot phase) (hstep : watching.tick? = some next) :
    next.Reached slot phase := by
  simp only [tick?, Option.ite_none_right_eq_some, Option.some.injEq] at hstep
  obtain ⟨-, rfl⟩ := hstep
  exact reached.kept rfl

theorem survey (reached : watching.Reached slot phase) (hstep : watching.survey? = some next) :
    next.Reached slot phase := by
  unfold survey? at hstep
  cases hmonitor : watching.monitor.phase with
  | looking current begun =>
      simp only [hmonitor] at hstep
      split at hstep <;>
        (obtain rfl := Option.some.inj hstep
         exact reached.kept rfl)
  | refreshing current begun =>
      simp only [hmonitor, Option.some.injEq] at hstep
      subst next
      exact reached.kept rfl
  | noting current begun =>
      simp only [hmonitor] at hstep
      split at hstep
      next => simp at hstep
      next =>
        obtain rfl := Option.some.inj hstep
        obtain ⟨probe, hprobe, hphase⟩ := reached
        rw [probe?] at hprobe
        exact ⟨probe, by simp [probe?, setPhase, hprobe], hphase⟩
  | idle => simp [hmonitor] at hstep
  | joining left => simp [hmonitor] at hstep
  | _ => simp [hmonitor] at hstep

/-- The monitor waits until the report is written. -/
theorem join (reached : watching.Reached slot phase) (hreported : phase.isReported = true)
    (hstep : watching.join? = some next) : next.Reached slot phase := by
  obtain ⟨probe, hprobe, rfl⟩ := reached
  obtain ⟨left, hmonitor⟩ := joining hstep
  unfold join? at hstep
  cases left with
  | nil =>
      simp only [hmonitor, Option.some.injEq] at hstep
      subst next
      exact ⟨probe, hprobe, rfl⟩
  | cons watch left =>
      simp only [hmonitor, Option.bind_eq_bind, Option.bind_eq_some_iff] at hstep
      obtain ⟨joined, hjoined, hstep⟩ := hstep
      have hother : watch.slot ≠ slot := by
        rintro rfl
        obtain rfl := Option.some.inj (hprobe.symm.trans hjoined)
        split at hstep
        next hphase => simp [hphase, ProbePhase.isReported] at hreported
        next hphase => simp [hphase, ProbePhase.isReported] at hreported
        next => simp at hstep
      have hleft : (watching.dropProbe watch.slot).Reached slot probe.phase :=
        ⟨probe, (probe?_dropProbe_of_ne hother).trans hprobe, rfl⟩
      split at hstep
      next =>
        obtain rfl := Option.some.inj hstep
        exact hleft.kept rfl
      next =>
        split at hstep <;>
          (obtain rfl := Option.some.inj hstep
           exact hleft.kept rfl)
      next => simp at hstep

/-- A probe that is abandoned goes on to where it waits. -/
theorem quit (reached : watching.Reached slot phase) (hreported : phase.isReported = true)
    (hstep : watching.quit? = some next) : next.Reached slot phase := by
  obtain ⟨probe, hprobe, rfl⟩ := reached
  have hprobes : next.probes =
      (watching.probes.filter (·.phase ≠ .begun)).map ({ · with abandoned := true }) := by
    unfold quit? at hstep
    dsimp only at hstep
    split at hstep
    next =>
      split at hstep
      next => exact Option.some.inj hstep ▸ rfl
      next => exact Option.some.inj hstep ▸ rfl
      next => simp at hstep
    next => simp at hstep
  refine ⟨{ probe with abandoned := true }, ?_, rfl⟩
  have hsame : (fun other : Probe => decide (other.slot = slot)) ∘
      (fun other : Probe => { other with abandoned := true }) =
        fun other => decide (other.slot = slot) := rfl
  obtain ⟨hslot, early, late, hsplit, hearly⟩ := List.find?_eq_some_iff_append.mp hprobe
  have hfound : (watching.probes.filter (·.phase ≠ .begun)).find? (·.slot = slot) = some probe := by
    rw [List.find?_filter, List.find?_eq_some_iff_append]
    refine ⟨?_, early, late, hsplit, fun other hother => ?_⟩
    · cases hphase : probe.phase <;> simp_all [ProbePhase.isReported]
    · simp_all
  rw [probe?, hprobes, List.find?_map, hsame, hfound]
  rfl

theorem answered (reached : watching.Reached slot phase) (hreported : phase.isReported = true)
    {answer : Answer ProbeReport} (hstep : watching.answered? other answer = some next) :
    next.Reached slot phase := by
  obtain ⟨probe, hprobe, rfl⟩ := reached
  unfold answered? at hstep
  simp only [Option.bind_eq_bind, Option.bind_eq_some_iff] at hstep
  obtain ⟨asked, hasked, hstep⟩ := hstep
  split at hstep
  next hphase =>
    obtain rfl := Option.some.inj hstep
    refine ⟨probe, ?_, rfl⟩
    rw [probe?_setProbe_of_ne ?_ hasked, hprobe]
    rintro rfl
    obtain rfl := Option.some.inj (hprobe.symm.trans hasked)
    simp [hphase, ProbePhase.isReported] at hreported
  next => simp at hstep

theorem drop (reached : watching.Reached slot phase) (hreported : phase.isReported = true)
    (hstep : watching.drop? other = some next) : next.Reached slot phase := by
  obtain ⟨probe, hprobe, rfl⟩ := reached
  unfold drop? at hstep
  simp only [Option.bind_eq_bind, Option.bind_eq_some_iff] at hstep
  obtain ⟨dropped, hdropped, hstep⟩ := hstep
  split at hstep
  next hphase =>
    obtain ⟨-, hstep⟩ := Option.ite_none_right_eq_some.mp hstep
    obtain rfl := Option.some.inj hstep
    refine ⟨probe, (probe?_dropProbe_of_ne ?_).trans hprobe, rfl⟩
    rintro rfl
    obtain rfl := Option.some.inj (hprobe.symm.trans hdropped)
    simp [hphase, ProbePhase.isReported] at hreported
  next => simp at hstep

/-- The probe of another slot goes on. -/
theorem advance (reached : watching.Reached slot phase) (hother : other ≠ slot)
    (hstep : watching.advance? other = some (next, commands)) : next.Reached slot phase := by
  have hmoves : ∀ {probe : Probe} {later : ProbePhase} {fleet : Fleet},
      watching.probe? other = some probe →
      Reached { watching.setProbe { probe with phase := later } with fleet } slot phase :=
    fun hprobe => reached.of_probe? (probe?_setProbe_of_ne hother hprobe _)
  unfold advance? at hstep
  simp only [Option.bind_eq_bind, Option.bind_eq_some_iff] at hstep
  obtain ⟨probe, hprobe, member, -, hstep⟩ := hstep
  split at hstep
  next =>
    obtain ⟨rfl, -⟩ := Prod.mk.inj (Option.some.inj hstep)
    exact hmoves hprobe
  next =>
    obtain ⟨rfl, -⟩ := Prod.mk.inj (Option.some.inj hstep)
    exact hmoves hprobe
  next =>
    split at hstep <;>
      (obtain ⟨rfl, -⟩ := Prod.mk.inj (Option.some.inj hstep)
       exact hmoves hprobe)
  next =>
    obtain ⟨rfl, -⟩ := Prod.mk.inj (Option.some.inj hstep)
    exact hmoves hprobe
  next => simp at hstep

end Reached

end Watching

namespace System

variable {system next first last : System} {event : Event} {commands : List Command}
  {moments : List (Moment System Event)} {slot : Nat} {old : Member} {probe : Probe}

/-- A running member keeps its record between two transitions, but for the snapshot. -/
theorem Kept.standing_step (kept : system.Kept) (hstep : system.step? event = some (next, commands))
    (hnone : ∀ kind, system.recorded? event ≠ some (slot, kind))
    (hold : system.fleet.member? slot = some old) (hrunning : old.running = true) :
    ∃ member, next.fleet.member? slot = some member ∧ member.standing = old.standing := by
  obtain ⟨-, hstepped⟩ := step_of_step? kept.orderly hstep
  obtain ⟨member, hmember⟩ := Fleet.exists_member? (hstepped.size_eq.symm ▸ Fleet.slot_lt hold)
  refine ⟨member, hmember, ?_⟩
  have hconfig := kept.config_eq hstep hold hmember (.inl hrunning)
  have haside : system.fleet.Aside next.fleet → member.standing = old.standing := by
    intro haside
    obtain ⟨found, hfound, hstanding⟩ := haside.exists_member? hmember
    obtain rfl := Option.some.inj (hold.symm.trans hfound)
    exact hstanding.symm
  cases hstepped with
  | turn hturn =>
      obtain ⟨found, hfound, hturned⟩ := hturn.exists_member? hmember
      obtain rfl := Option.some.inj (hold.symm.trans hfound)
      exact hturned.standing_of_config hnone hconfig
  | move hmove => exact haside hmove.aside
  | outside houtside => exact haside (.outside houtside)

/-- A probe that has its report goes on only with its own steps. -/
theorem reached_of_step? {phase : ProbePhase} (reached : system.watching.Reached slot phase)
    (hreported : phase.isReported = true) (hother : event ≠ .probe slot)
    (hstep : system.step? event = some (next, commands)) : next.watching.Reached slot phase := by
  cases event with
  | outside outer =>
      simp only [step?, Option.map_eq_some_iff, Prod.mk.injEq] at hstep
      obtain ⟨fleet, -, rfl, -⟩ := hstep
      exact reached.kept rfl
  | call operation =>
      obtain ⟨rfl, -⟩ := Prod.mk.inj (Option.some.inj hstep)
      exact reached.kept rfl
  | advance | launched | ready | abandoned =>
      obtain ⟨calling, -, rfl⟩ := exists_of_onCalling hstep
      exact reached.kept rfl
  | ended id handle =>
      simp only [step?, Option.map_eq_some_iff, Prod.mk.injEq] at hstep
      obtain ⟨calling, -, rfl, -⟩ := hstep
      exact reached.kept rfl
  | tick =>
      obtain ⟨watching, htick, rfl, -⟩ := exists_of_onWatching hstep
      exact reached.tick htick
  | survey =>
      obtain ⟨watching, hsurvey, rfl, -⟩ := exists_of_onWatching hstep
      exact reached.survey hsurvey
  | join =>
      obtain ⟨watching, hjoin, rfl, -⟩ := exists_of_onWatching hstep
      exact reached.join hreported hjoin
  | quit =>
      obtain ⟨watching, hquit, rfl, -⟩ := exists_of_onWatching hstep
      exact reached.quit hreported hquit
  | probe other =>
      obtain ⟨watching, hadvance, rfl⟩ := exists_of_advance? hstep
      exact reached.advance (fun hsame => hother (congrArg Event.probe hsame)) hadvance
  | answered other answer =>
      obtain ⟨watching, hanswered, rfl, -⟩ := exists_of_onWatching hstep
      exact reached.answered hreported hanswered
  | drop other =>
      obtain ⟨watching, hdrop, rfl, -⟩ := exists_of_onWatching hstep
      exact reached.drop hreported hdrop

theorem reached_of_course {phase : ProbePhase} (reached : first.watching.Reached slot phase)
    (hreported : phase.isReported = true)
    (hothers : ∀ moment ∈ moments, moment.event ≠ .probe slot)
    (hcourse : Course step? first moments last) : last.watching.Reached slot phase :=
  hcourse.preserves_of_forall reached hothers fun hstep hother before =>
    reached_of_step? before hreported hother hstep

/-- A probe that gets a report has asked for it. -/
theorem reached_of_answered {report : ProbeReport}
    (hstep : system.step? (.answered slot (.reply (.ok report))) = some (next, commands)) :
    ∃ probe ∈ system.probes, probe.slot = slot ∧ ∃ config, probe.phase.config? = some config ∧
      next.watching.Reached slot (.healthy config report) := by
  obtain ⟨watching, hanswered, rfl, -⟩ := exists_of_onWatching hstep
  unfold Watching.answered? at hanswered
  simp only [Option.bind_eq_bind, Option.bind_eq_some_iff] at hanswered
  obtain ⟨probe, hprobe, hanswered⟩ := hanswered
  split at hanswered
  next config started hphase =>
    obtain rfl := Option.some.inj hanswered
    exact ⟨probe, List.mem_of_find?_eq_some hprobe, Watching.probe?_slot hprobe, config,
      by rw [hphase]; rfl, .of_setProbe hprobe _ rfl⟩
  next => simp at hanswered

section

variable {config : MemberConfig} {report : ProbeReport} {text : String} {member : Member}

theorem reached_of_word (reached : system.watching.Reached slot (.healthy config report))
    (hmember : system.fleet.member? slot = some member)
    (hstep : system.step? (.probe slot) = some (next, commands)) :
    next.watching.Reached slot
      (.committing config report (member.healthyText system.fleet.clock.wall)) := by
  obtain ⟨probe, hprobe, hphase⟩ := reached
  rw [step?_word hprobe hmember hphase] at hstep
  obtain ⟨rfl, -⟩ := Prod.mk.inj (Option.some.inj hstep)
  exact ⟨_, probe?_goOn hprobe _, rfl⟩

theorem written_of_reached (reached : system.watching.Reached slot (.committing config report text))
    (regard : system.watching.Regard slot old) (hstanding : member.standing = old.standing)
    (hmember : system.fleet.member? slot = some member)
    (hstep : system.step? (.probe slot) = some (next, commands)) :
    next.fleet.member? slot =
      some (member.updateStatus (·.commit config.clientUrl text report)) := by
  obtain ⟨probe, hprobe, hphase⟩ := reached
  have hseen := (regard probe (List.mem_of_find?_eq_some hprobe) (Watching.probe?_slot hprobe)).seen
  rw [← Member.transition_eq hstanding] at hseen
  obtain ⟨after, hcommit, hwritten⟩ := exists_commit hprobe hmember hphase hseen.symm
  rw [hcommit] at hstep
  obtain ⟨rfl, -⟩ := Prod.mk.inj (Option.some.inj hstep)
  exact hwritten

end

/-! ### A probe that succeeds -/

/-- The member of a slot runs, and its record but for the snapshot is this one. -/
structure Upholds (system : System) (slot : Nat) (old : Member) : Prop where
  kept : system.Kept
  attended : system.Attended
  titled : system.fleet.Titled
  member : ∃ member, system.fleet.member? slot = some member ∧ member.standing = old.standing

theorem Reachable.upholds (hreachable : system.Reachable)
    (hold : system.fleet.member? slot = some old) : system.Upholds slot old :=
  ⟨hreachable.kept, hreachable.attended, hreachable.titled, old, hold, rfl⟩

namespace Upholds

theorem step (upholds : system.Upholds slot old) (hrunning : old.running = true)
    (hstep : system.step? event = some (next, commands))
    (hnone : ∀ kind, system.recorded? event ≠ some (slot, kind)) : next.Upholds slot old := by
  obtain ⟨kept, attended, titled, member, hmember, hstanding⟩ := upholds
  obtain ⟨later, hlater, hsame⟩ := kept.standing_step hstep hnone hmember
    ((Member.running_eq hstanding).trans hrunning)
  exact ⟨kept.step hstep, attended.step hstep, titled_of_step? kept.orderly titled hstep, later,
    hlater, hsame.trans hstanding⟩

theorem course (upholds : first.Upholds slot old) (hrunning : old.running = true)
    (hcourse : Course step? first moments last) (hunmarked : Unmarked slot moments) :
    last.Upholds slot old :=
  hcourse.preserves_of_forall upholds hunmarked fun hstep hnone before =>
    step before hrunning hstep hnone

end Upholds

/-- The member of a slot runs, and its probes regard it as it is. -/
structure Minds (system : System) (slot : Nat) (old : Member) : Prop where
  upholds : system.Upholds slot old
  regard : system.watching.Regard slot old

namespace Minds

theorem step (minds : system.Minds slot old) (hrunning : old.running = true)
    (hstep : system.step? event = some (next, commands))
    (hnone : ∀ kind, system.recorded? event ≠ some (slot, kind)) : next.Minds slot old := by
  obtain ⟨upholds, regard⟩ := minds
  refine ⟨upholds.step hrunning hstep hnone, ?_⟩
  obtain ⟨-, hstepped⟩ := step_of_step? upholds.kept.orderly hstep
  obtain ⟨member, hmember, hstanding⟩ := upholds.member
  cases hstepped with
  | turn _ _ _ hprobes => exact regard.kept hprobes
  | move hmove => exact regard.move hmove hmember hstanding
  | outside _ _ _ _ _ _ hprobes => exact regard.kept hprobes

theorem course (minds : first.Minds slot old) (hrunning : old.running = true)
    (hcourse : Course step? first moments last) (hunmarked : Unmarked slot moments) :
    last.Minds slot old :=
  hcourse.preserves_of_forall minds hunmarked fun hstep hnone before =>
    step before hrunning hstep hnone

end Minds

/-- Before a transition is noted there is no probe of its slot. -/
theorem Upholds.minds_of_noting (upholds : system.Upholds slot old) {begun : List Watch}
    (hphase : system.monitor.phase = .noting slot begun) : system.Minds slot old :=
  ⟨upholds, fun probe hprobe hslot =>
    absurd hslot (upholds.attended.tidy.fresh hphase probe hprobe)⟩

/-- The moments of one probe of a slot, from the one in which it is begun to its last one: it gets
this report, and reads the wall clock at this time for its text. Anything may come in between. -/
inductive Probes (slot : Nat) (report : ProbeReport) (wall : Int) :
    List (Moment System Event) → Prop where
  | intro {note answer word write : Moment System Event}
      {asking reading writing : List (Moment System Event)} (hnote : note.event = .survey)
      (hnoting : ∃ begun, note.before.monitor.phase = .noting slot begun)
      (hanswer : answer.event = .answered slot (.reply (.ok report)))
      (hreading : ∀ moment ∈ reading, moment.event ≠ .probe slot)
      (hword : word.event = .probe slot) (hwall : word.before.fleet.clock.wall = wall)
      (hwriting : ∀ moment ∈ writing, moment.event ≠ .probe slot)
      (hwrite : write.event = .probe slot) :
      Probes slot report wall
        (note :: (asking ++ answer :: (reading ++ word :: (writing ++ [write]))))

/-- The snapshot shows the report, and nothing of what it showed before. -/
theorem Upholds.healed (upholds : first.Upholds slot old) (hrunning : old.running = true)
    {report : ProbeReport} {wall : Int} (hcourse : Course step? first moments last)
    (hunmarked : Unmarked slot moments) (hprobes : Probes slot report wall moments) :
    last.fleet.status? slot = some (old.healed report wall) := by
  cases hprobes with
  | @intro note answer word write asking reading writing hnote hnoting hanswer hreading hword hwall
      hwriting hwrite =>
    obtain ⟨begun, hphase⟩ := hnoting
    obtain ⟨rfl, hbegin, hrest⟩ := hcourse.of_cons
    obtain ⟨hunnoted, hunmarked⟩ := List.forall_mem_cons.mp hunmarked
    obtain ⟨hunasked, hunmarked⟩ := List.forall_mem_append.mp hunmarked
    obtain ⟨hunanswered, hunmarked⟩ := List.forall_mem_cons.mp hunmarked
    obtain ⟨hunread, hunmarked⟩ := List.forall_mem_append.mp hunmarked
    obtain ⟨hunworded, hunmarked⟩ := List.forall_mem_cons.mp hunmarked
    obtain ⟨hunwritten, -⟩ := List.forall_mem_append.mp hunmarked
    -- The probe has noted the last transition, and the configuration stays while the member runs.
    have hbegun := (upholds.minds_of_noting hphase).step hrunning hbegin hunnoted
    obtain ⟨hasking, hanswered, hrest⟩ := hrest.at_moment
    have hasked := hbegun.course hrunning hasking hunasked
    obtain ⟨probe, hprobe, hslot, config, hconfig, hreached⟩ :=
      reached_of_answered (hanswer ▸ hanswered)
    obtain rfl := (hasked.regard probe hprobe hslot).config config hconfig
    -- The text is read from the same record, at the time of the wall clock then.
    obtain ⟨hread, hworded, hrest⟩ := hrest.at_moment
    have hready := (hasked.step hrunning hanswered hunanswered).course hrunning hread hunread
    obtain ⟨member, hmember, hstanding⟩ := hready.upholds.member
    have hreached := reached_of_word (reached_of_course hreached rfl hreading hread) hmember
      (hword ▸ hworded)
    rw [hwall, Member.healthyText_eq hstanding] at hreached
    -- It is written over whatever the snapshot shows by then.
    obtain ⟨hwritten, hwrote, rfl⟩ := hrest.of_concat
    have hworded := (hready.step hrunning hworded hunworded).course hrunning hwritten hunwritten
    obtain ⟨current, hcurrent, hsame⟩ := hworded.upholds.member
    have hlast := written_of_reached (reached_of_course hreached rfl hwriting hwritten)
      hworded.regard hsame hcurrent (hwrite ▸ hwrote)
    rw [Fleet.status?, hlast, Option.map_some, ← Member.config_eq hsame,
      ← Member.healthyText_eq hsame, ← Member.healed_eq hsame]
    exact congrArg some
      (Member.commit_eq_healed (hworded.upholds.titled slot current hcurrent) report wall)

/-- Whatever happens to a member between two transitions, and then a probe of it that succeeds. -/
structure Heals (first : System) (slot : Nat) (report : ProbeReport) (wall : Int)
    (history probing : List (Moment System Event)) (last : System) : Prop where
  course : Course step? first (history ++ probing) last
  unmarked : Unmarked slot (history ++ probing)
  probes : Probes slot report wall probing

theorem Upholds.status?_of_heals (upholds : first.Upholds slot old) (hrunning : old.running = true)
    {report : ProbeReport} {wall : Int} {history probing : List (Moment System Event)}
    (heals : first.Heals slot report wall history probing last) :
    last.fleet.status? slot = some (old.healed report wall) := by
  obtain ⟨middle, hhistory, hprobing⟩ := heals.course.split
  obtain ⟨hquiet, hunmarked⟩ := List.forall_mem_append.mp heals.unmarked
  exact (upholds.course hrunning hhistory hquiet).healed hrunning hprobing hunmarked heals.probes

end System

/-- Take a member that runs, in any state that a started fleet can come to, and a record in another
such state that differs from its own at most in the snapshot. Whatever happens to either, be it
reports, failures, probes that unwind or are cut off, rounds or calls, as long as it is no
transition of the member: once a probe of each has got the same report and has read the wall clock
at the same time, the two snapshots are equal, and show nothing but that report. -/
theorem degradation_heals_completely {left right mended restored : System}
    (hleft : left.Reachable) (hright : right.Reachable) {slot : Nat} {member other : Member}
    (hmember : left.fleet.member? slot = some member)
    (hother : right.fleet.member? slot = some other) (hrunning : member.running = true)
    (hstanding : other.standing = member.standing) {report : ProbeReport} {wall : Int}
    {history past early late : List (Moment System Event)}
    (hheals : left.Heals slot report wall history early mended)
    (hagain : right.Heals slot report wall past late restored) :
    mended.fleet.status? slot = some (member.healed report wall) ∧
      restored.fleet.status? slot = mended.fleet.status? slot := by
  have hmended := (hleft.upholds hmember).status?_of_heals hrunning hheals
  have hrestored := (hright.upholds hother).status?_of_heals
    ((Member.running_eq hstanding).trans hrunning) hagain
  rw [Member.healed_eq hstanding] at hrestored
  exact ⟨hmended, hrestored.trans hmended.symm⟩

namespace System

variable {system first middle last : System} {member : Member} {report : ProbeReport} {wall : Int}

theorem exists_tick (hidle : system.monitor.phase = .idle)
    (hdue : system.monitor.due ≤ system.fleet.clock.instant)
    (hwatched : system.fleet.stopFired = false) :
    ∃ next, system.step? .tick = some (next, []) ∧ next.monitor.phase = .looking 0 [] ∧
      next.probes = system.probes ∧ next.fleet = system.fleet := by
  refine ⟨{ system with
    monitor := { system.monitor with
      due := nextTick system.monitor.due system.fleet.clock.instant system.monitor.interval
      phase := .looking 0 [] } }, ?_, rfl, rfl, rfl⟩
  rw [step?, Watching.tick?, if_pos ⟨hidle, hdue, by simp [watching, hwatched]⟩]
  rfl

theorem exists_look (hphase : system.monitor.phase = .looking 0 [])
    (hmember : system.fleet.member? 0 = some member) (hrunning : member.running = true) :
    ∃ next, system.step? .survey = some (next, []) ∧ next.monitor.phase = .noting 0 [] ∧
      next.probes = system.probes ∧ next.fleet = system.fleet := by
  refine ⟨{ system with monitor := { system.monitor with phase := .noting 0 [] } }, ?_, rfl, rfl,
    rfl⟩
  simp only [step?, Watching.survey?, watching, hphase, hmember, hrunning, Option.map_some]
  rfl

/-- At its next tick the monitor comes to the first member again, whenever that is. -/
theorem exists_noting (hidle : system.monitor.phase = .idle)
    (hwatched : system.fleet.stopFired = false) (hmember : system.fleet.member? 0 = some member)
    (hrunning : member.running = true) (wall : Int) :
    ∃ moments last, Course step? system moments last ∧ Unmarked 0 moments ∧
      last.monitor.phase = .noting 0 [] ∧ last.probes = system.probes ∧
      last.fleet.member? 0 = some member ∧ last.fleet.clock.wall = wall := by
  let clock : Clock := ⟨max system.monitor.due system.fleet.clock.instant, wall⟩
  let come : System := { system with fleet := { system.fleet with clock } }
  have htime : system.step? (.outside (.time clock)) = some (come, []) := by
    simp [step?, Fleet.outside?, come, clock]
  have hresting : come.monitor.phase = .idle := hidle
  have hdue : come.monitor.due ≤ come.fleet.clock.instant := Nat.le_max_left ..
  obtain ⟨begun, htick, hbegun, hsame, hfleet⟩ := exists_tick hresting hdue hwatched
  obtain ⟨last, hlook, hnoting, hkept, hstill⟩ :=
    exists_look hbegun (hfleet.symm ▸ hmember) hrunning
  refine ⟨_, last, ((Course.single htime).append (.single htick)).append (.single hlook), ?_,
    hnoting, hkept.trans hsame, ?_, ?_⟩
  · simp [Unmarked, recorded?, Calling.recorded?]
  · rw [hstill, hfleet]
    exact hmember
  · rw [hstill, hfleet]

/-- A probe that is about to be begun may get any report, and read the wall clock as it is. -/
theorem exists_probes {slot : Nat} {begun : List Watch}
    (hphase : system.monitor.phase = .noting slot begun)
    (hmember : system.fleet.member? slot = some member)
    (hfresh : ∀ probe ∈ system.probes, probe.slot ≠ slot) (report : ProbeReport) :
    ∃ moments last, Course step? system moments last ∧ Unmarked slot moments ∧
      Probes slot report system.fleet.clock.wall moments := by
  obtain ⟨moments, last, hcourse, hevents, hsame, -⟩ :=
    course_visit_unchanged hphase hmember hfresh report
  refine ⟨moments, last, hcourse, unmarked_visit hevents slot, ?_⟩
  obtain ⟨note, rest, rfl, hnote, hevents⟩ := List.map_eq_cons_iff.mp hevents
  obtain ⟨ask, rest, rfl, -, hevents⟩ := List.map_eq_cons_iff.mp hevents
  obtain ⟨answer, rest, rfl, hanswer, hevents⟩ := List.map_eq_cons_iff.mp hevents
  obtain ⟨word, rest, rfl, hword, hevents⟩ := List.map_eq_cons_iff.mp hevents
  obtain ⟨write, rest, rfl, hwrite, hnone⟩ := List.map_eq_cons_iff.mp hevents
  obtain rfl := List.map_eq_nil_iff.mp hnone
  have hbegun : note.before = system := hcourse.of_cons.1
  have hprobed : Probes slot report system.fleet.clock.wall
      (note :: ([ask] ++ answer :: ([] ++ word :: ([] ++ [write])))) :=
    .intro hnote ⟨begun, hbegun ▸ hphase⟩ hanswer (List.forall_mem_nil _) hword
      (by rw [hsame word (by simp)]) (List.forall_mem_nil _) hwrite
  exact hprobed

/-- Between two rounds the only thing missing for a member to heal is time and its answer. -/
theorem exists_heals (tidy : system.watching.Tidy) (hidle : system.monitor.phase = .idle)
    (hwatched : system.fleet.stopFired = false) (hmember : system.fleet.member? 0 = some member)
    (hrunning : member.running = true) (report : ProbeReport) (wall : Int) :
    ∃ history probing last, system.Heals 0 report wall history probing last := by
  obtain ⟨history, middle, hhistory, hquiet, hnoting, hprobes, hfound, rfl⟩ :=
    exists_noting hidle hwatched hmember hrunning wall
  have hfresh : ∀ probe ∈ middle.probes, probe.slot ≠ 0 := by
    intro probe hprobe
    rw [hprobes] at hprobe
    obtain ⟨watch, hwatch, -⟩ := tidy.awaited (by simp [watching, hidle]) probe hprobe
    simp [watching, hidle, MonitorPhase.pending] at hwatch
  obtain ⟨probing, last, hprobing, hunmarked, hprobed⟩ :=
    exists_probes hnoting hfound hfresh report
  exact ⟨history, probing, last, hhistory.append hprobing,
    List.forall_mem_append.mpr ⟨hquiet, hunmarked⟩, hprobed⟩

theorem Heals.after {slot : Nat} {earlier history probing : List (Moment System Event)}
    (heals : middle.Heals slot report wall history probing last)
    (hearlier : Course step? first earlier middle) (hunmarked : Unmarked slot earlier) :
    first.Heals slot report wall (earlier ++ history) probing last := by
  obtain ⟨hcourse, hquiet, hprobes⟩ := heals
  exact ⟨List.append_assoc .. ▸ hearlier.append hcourse,
    List.append_assoc .. ▸ List.forall_mem_append.mpr ⟨hunmarked, hquiet⟩, hprobes⟩

/-- A member that fails in a round is degraded, and runs on. -/
theorem exists_degraded (kept : first.Kept) (tidy : first.watching.Tidy)
    (hidle : first.monitor.phase = .idle)
    (hdue : first.monitor.due ≤ first.fleet.clock.instant)
    (hwatched : first.fleet.stopFired = false) (hmember : first.fleet.member? 0 = some member)
    (hrunning : member.running = true) {fault : ProbeFault} (hheard : fault.isCancelled = false) :
    ∃ moments middle degraded, Course step? first moments middle ∧ Unmarked 0 moments ∧
      middle.monitor.phase = .idle ∧ middle.fleet.stopFired = false ∧
      middle.fleet.member? 0 = some degraded ∧ degraded.running = true ∧
      degraded.status.state = .stopped := by
  obtain ⟨moments, middle, hround, hevents⟩ :=
    exists_round tidy hidle hdue hwatched fun _ => .reply (.error fault)
  have hunmarked := unmarked_of_undisturbed hevents
  have hsteady := SteadyRound.of_undisturbed hround hevents
  obtain ⟨config, visited, hdegraded, hrun, -⟩ := hsteady.exists_member? kept tidy hmember
  have htraces := Visit.Traces.of_run (.reply (.error fault)) (readingsOf 0 moments) member
  rw [hrun] at htraces
  obtain ⟨begun, commands, htick, hcourse⟩ := hround.begins
  refine ⟨_, middle, visited.setConfig config, (Course.single htick).append hcourse, ?_,
    hround.idle, (hround.aside hevents).1.stopFired.trans hwatched, hdegraded, ?_, ?_⟩
  · refine List.forall_mem_append.mpr ⟨unmarked_singleton.mpr fun kind => ?_, hunmarked 0⟩
    simp [recorded?, Calling.recorded?]
  · exact (Member.running_eq htraces.standing_eq).trans hrunning
  · cases htraces with
    | done hvisited =>
        cases hvisited with
        | stopped _ hstopped => exact absurd (hrunning.symm.trans hstopped) (by simp)
        | cancelled _ hcancelled => exact absurd (hheard.symm.trans hcancelled) (by simp)
        | failed => rfl

end System

/-- The only member of the smallest fleet heals, be it from the start or from a failure. -/
theorem solo_degradation_heals_completely :
    ∃ (first middle mended restored : System) (member degraded : Member) (report : ProbeReport)
      (wall : Int) (history failing past early late : List (Moment System Event)),
      first.Reachable ∧ first.fleet.member? 0 = some member ∧
      first.Heals 0 report wall history early mended ∧
      Course System.step? first failing middle ∧ middle.fleet.member? 0 = some degraded ∧
      degraded.running = true ∧ degraded.status.state = .stopped ∧
      first.Heals 0 report wall (failing ++ past) late restored ∧
      mended.fleet.status? 0 = some (member.healed report wall) ∧
      restored.fleet.status? 0 = mended.fleet.status? 0 := by
  obtain ⟨fleet, member, hstarted, hmember⟩ := started_solo
  have hreachable : (System.ofStart fleet 0).Reachable := ⟨_, fleet, 0, [], hstarted, .start⟩
  have tidy := hreachable.attended.tidy
  have hrunning := hstarted.running hmember
  have hheard : (⟨.status, .transport⟩ : ProbeFault).isCancelled = false := rfl
  obtain ⟨failing, middle, degraded, hfailing, hunmarked, hidle, hwatched, hdegraded, hruns,
    hshown⟩ := System.exists_degraded hreachable.kept tidy rfl (Nat.le_refl _)
      hstarted.fledgling.watched hmember hrunning hheard
  obtain ⟨history, early, mended, hmended⟩ := System.exists_heals tidy rfl
    hstarted.fledgling.watched hmember hrunning ⟨⟨7, 7, 2048⟩, 42⟩ 0
  obtain ⟨past, late, restored, hrestored⟩ := System.exists_heals
    (hreachable.attended.course hfailing).tidy hidle hwatched hdegraded hruns ⟨⟨7, 7, 2048⟩, 42⟩ 0
  have hagain := hrestored.after hfailing hunmarked
  obtain ⟨hhealed, hsame⟩ := degradation_heals_completely hreachable hreachable hmember hmember
    hrunning rfl hmended hagain
  exact ⟨_, middle, mended, restored, member, degraded, _, 0, history, failing, past, early, late,
    hreachable, hmember, hmended, hfailing, hdegraded, hruns, hshown, hagain, hhealed, hsame⟩

end FleetControl
