import FleetControl.Proofs.Fleet.Standing

/-!
# The moves of the monitor

Every step of the status monitor and of its probes is one of a few moves. Each reads or writes at
most one record, and writes nothing of it but the snapshot.
-/

namespace FleetControl.Watching

/-- What one step of the monitor or of a probe does. -/
inductive Move (watching : Watching) : Watching → List Command → Prop where
  /-- A round begins. -/
  | tick (hphase : watching.monitor.phase = .idle)
      (hdue : watching.monitor.due ≤ watching.fleet.clock.instant)
      (hstop : watching.fleet.stopFired = false) :
      Move watching
        { watching with
          monitor := { watching.monitor with
            due := nextTick watching.monitor.due watching.fleet.clock.instant
              watching.monitor.interval
            phase := .looking 0 [] } } []
  /-- All members were looked at. -/
  | gather {slot : Nat} {begun : List Watch} (hphase : watching.monitor.phase = .looking slot begun)
      (hmember : watching.fleet.member? slot = none) :
      Move watching (watching.setPhase (.joining begun)) []
  /-- The monitor sees whether a member runs. -/
  | look {slot : Nat} {begun : List Watch} {member : Member}
      (hphase : watching.monitor.phase = .looking slot begun)
      (hmember : watching.fleet.member? slot = some member) :
      Move watching (watching.setPhase
        (if member.running then .noting slot begun else .refreshing slot begun)) []
  /-- The text of a member that was seen stopped is brought up to date. -/
  | refresh {slot : Nat} {begun : List Watch}
      (hphase : watching.monitor.phase = .refreshing slot begun) :
      Move watching
        (Watching.setPhase
          { watching with
            fleet := watching.fleet.changeMember slot
              (·.refreshStoppedText watching.fleet.clock.wall) }
          (.looking (slot + 1) begun)) []
  /-- The last transition of a member that was seen running is noted, and its probe begins. -/
  | note {slot : Nat} {begun : List Watch} {member : Member}
      (hphase : watching.monitor.phase = .noting slot begun)
      (hmember : watching.fleet.member? slot = some member) :
      Move watching
        (Watching.setPhase
          { watching with
            probes := watching.probes ++ [{ slot, seen := member.transition.instant }] }
          (.looking (slot + 1) (begun ++ [⟨slot, member.transition.instant⟩]))) []
  /-- The round is over. -/
  | rest (hphase : watching.monitor.phase = .joining []) :
      Move watching (watching.setPhase .idle) []
  /-- A probe has ended, or has unwound after the root signal. -/
  | join {watch : Watch} {left : List Watch} {probe : Probe}
      (hphase : watching.monitor.phase = .joining (watch :: left))
      (hprobe : watching.probe? watch.slot = some probe)
      (hended : probe.phase = .finished ∨
        (∃ text, probe.phase = .unwound text) ∧ watching.fleet.rootFired = true) :
      Move watching ((watching.dropProbe watch.slot).setPhase (.joining left)) []
  /-- A probe has unwound, and its member is degraded. -/
  | recover {watch : Watch} {left : List Watch} {probe : Probe} {text : String}
      (hphase : watching.monitor.phase = .joining (watch :: left))
      (hprobe : watching.probe? watch.slot = some probe)
      (hunwound : probe.phase = .unwound text) (hroot : watching.fleet.rootFired = false) :
      Move watching
        { (watching.dropProbe watch.slot).setPhase (.joining left) with
          fleet := watching.fleet.degrade watch.slot watch.seen "probing"
            watching.fleet.clock.wall (unwindCause text) } []
  /-- The monitor ends where it waits. -/
  | quit (hstop : watching.fleet.stopFired = true)
      (hphase : watching.monitor.phase = .idle ∨ ∃ left, watching.monitor.phase = .joining left) :
      Move watching
        (Watching.setPhase
          { watching with
            fleet := { watching.fleet with doneFired := true }
            probes := (watching.probes.filter (·.phase ≠ .begun)).map
              ({ · with abandoned := true }) }
          .over) []
  /-- A probe asks its member. -/
  | ask {slot : Nat} {probe : Probe} {member : Member}
      (hprobe : watching.probe? slot = some probe)
      (hmember : watching.fleet.member? slot = some member) (hphase : probe.phase = .begun) :
      Move watching
        (watching.setProbe
          { probe with phase := .asking member.config watching.fleet.clock.wall })
        [.probe slot member.config]
  /-- A probe gets its answer. -/
  | answer {slot : Nat} {probe : Probe} {config : MemberConfig} {started : Int}
      {answer : Answer ProbeReport} (hprobe : watching.probe? slot = some probe)
      (hphase : probe.phase = .asking config started) :
      Move watching
        (watching.setProbe
          { probe with
            phase :=
              match answer with
              | .unwound text => .unwound text
              | .reply (.ok report) => .healthy config report
              | .reply (.error fault) =>
                  if fault.isCancelled then .finished else .failing fault started }) []
  /-- A probe reads the text of a healthy member. -/
  | word {slot : Nat} {probe : Probe} {member : Member} {config : MemberConfig}
      {report : ProbeReport} (hprobe : watching.probe? slot = some probe)
      (hmember : watching.fleet.member? slot = some member)
      (hphase : probe.phase = .healthy config report) :
      Move watching
        (watching.setProbe
          { probe with
            phase := .committing config report
              (member.healthyText watching.fleet.clock.wall) }) []
  /-- A probe writes its report: no transition happened since it began. -/
  | commit {slot : Nat} {probe : Probe} {member : Member} {config : MemberConfig}
      {report : ProbeReport} {text : String} (hprobe : watching.probe? slot = some probe)
      (hmember : watching.fleet.member? slot = some member)
      (hphase : probe.phase = .committing config report text)
      (hseen : member.transition.instant = probe.seen) :
      Move watching
        { watching.setProbe { probe with phase := .finished } with
          fleet := (watching.fleet.changeMember slot fun _ =>
            member.updateStatus (·.commit config.clientUrl text report)).recordState slot
              (.ofLeadership report.status.isLeader) report.status.dbSize } []
  /-- A probe drops its report: it is older than the last transition. -/
  | discard {slot : Nat} {probe : Probe} {member : Member} {config : MemberConfig}
      {report : ProbeReport} {text : String} (hprobe : watching.probe? slot = some probe)
      (hmember : watching.fleet.member? slot = some member)
      (hphase : probe.phase = .committing config report text)
      (hseen : member.transition.instant ≠ probe.seen) :
      Move watching (watching.setProbe { probe with phase := .finished }) []
  /-- A probe that failed degrades its member. -/
  | fail {slot : Nat} {probe : Probe} {fault : ProbeFault} {started : Int}
      (hprobe : watching.probe? slot = some probe)
      (hphase : probe.phase = .failing fault started) :
      Move watching
        { watching.setProbe { probe with phase := .finished } with
          fleet := (watching.fleet.recordProbeFailure slot fault.stage).degrade slot probe.seen
            fault.stage.activity started fault.source.message } []
  /-- An abandoned probe ends where it waits. -/
  | drop {slot : Nat} {probe : Probe} {config : MemberConfig} {started : Int}
      (hprobe : watching.probe? slot = some probe)
      (hphase : probe.phase = .asking config started) (habandoned : probe.abandoned = true) :
      Move watching (watching.dropProbe slot) []

variable {watching next : Watching}

theorem move_of_tick (hstep : watching.tick? = some next) : Move watching next [] := by
  simp only [tick?, Option.ite_none_right_eq_some, Option.some.injEq] at hstep
  obtain ⟨⟨hphase, hdue, hstop⟩, rfl⟩ := hstep
  exact .tick hphase hdue (Bool.not_eq_true _ ▸ hstop)

theorem move_of_survey (hstep : watching.survey? = some next) : Move watching next [] := by
  unfold survey? at hstep
  cases hphase : watching.monitor.phase with
  | looking slot begun =>
      simp only [hphase] at hstep
      cases hmember : watching.fleet.member? slot with
      | none =>
          simp only [hmember, Option.some.injEq] at hstep
          subst next
          exact .gather hphase hmember
      | some member =>
          simp only [hmember, Option.some.injEq] at hstep
          subst next
          exact .look hphase hmember
  | refreshing slot begun =>
      simp only [hphase, Option.some.injEq] at hstep
      subst next
      exact .refresh hphase
  | noting slot begun =>
      simp only [hphase] at hstep
      cases hmember : watching.fleet.member? slot with
      | none => simp [hmember] at hstep
      | some member =>
          simp only [hmember, Option.some.injEq] at hstep
          subst next
          exact .note hphase hmember
  | idle => simp [hphase] at hstep
  | joining left => simp [hphase] at hstep
  | _ => simp [hphase] at hstep

theorem move_of_join (hstep : watching.join? = some next) : Move watching next [] := by
  unfold join? at hstep
  cases hphase : watching.monitor.phase with
  | joining left =>
      cases left with
      | nil =>
          simp only [hphase, Option.some.injEq] at hstep
          subst next
          exact .rest hphase
      | cons watch left =>
          simp only [hphase, Option.bind_eq_bind, Option.bind_eq_some_iff] at hstep
          obtain ⟨probe, hprobe, hstep⟩ := hstep
          split at hstep
          next hended =>
            obtain rfl := Option.some.inj hstep
            exact .join hphase hprobe (.inl hended)
          next text hended =>
            split at hstep
            next hroot =>
              obtain rfl := Option.some.inj hstep
              exact .join hphase hprobe (.inr ⟨⟨text, hended⟩, hroot⟩)
            next hroot =>
              obtain rfl := Option.some.inj hstep
              exact .recover hphase hprobe hended (Bool.not_eq_true _ ▸ hroot)
          next => simp at hstep
  | idle => simp [hphase] at hstep
  | looking slot begun => simp [hphase] at hstep
  | refreshing slot begun => simp [hphase] at hstep
  | noting slot begun => simp [hphase] at hstep
  | _ => simp [hphase] at hstep

theorem move_of_quit (hstep : watching.quit? = some next) : Move watching next [] := by
  unfold quit? at hstep
  dsimp only at hstep
  split at hstep
  next hstop =>
    split at hstep
    next hphase =>
      obtain rfl := Option.some.inj hstep
      exact .quit hstop (.inl hphase)
    next left hphase =>
      obtain rfl := Option.some.inj hstep
      exact .quit hstop (.inr ⟨left, hphase⟩)
    next => simp at hstep
  next => simp at hstep

theorem move_of_advance {slot : Nat} {commands : List Command}
    (hstep : watching.advance? slot = some (next, commands)) : Move watching next commands := by
  unfold advance? at hstep
  simp only [Option.bind_eq_bind, Option.bind_eq_some_iff] at hstep
  obtain ⟨probe, hprobe, member, hmember, hstep⟩ := hstep
  cases hphase : probe.phase with
  | begun =>
      simp only [hphase] at hstep
      obtain ⟨rfl, rfl⟩ := Prod.mk.inj (Option.some.inj hstep)
      exact .ask hprobe hmember hphase
  | healthy config report =>
      simp only [hphase] at hstep
      obtain ⟨rfl, rfl⟩ := Prod.mk.inj (Option.some.inj hstep)
      exact .word hprobe hmember hphase
  | committing config report text =>
      simp only [hphase, Member.updateStatusSince] at hstep
      by_cases hseen : member.transition.instant = probe.seen
      · rw [if_pos hseen] at hstep
        obtain ⟨rfl, rfl⟩ := Prod.mk.inj (Option.some.inj hstep)
        exact .commit hprobe hmember hphase hseen
      · rw [if_neg hseen] at hstep
        obtain ⟨rfl, rfl⟩ := Prod.mk.inj (Option.some.inj hstep)
        exact .discard hprobe hmember hphase hseen
  | failing fault started =>
      simp only [hphase] at hstep
      obtain ⟨rfl, rfl⟩ := Prod.mk.inj (Option.some.inj hstep)
      exact .fail hprobe hphase
  | asking config started => simp [hphase] at hstep
  | finished => simp [hphase] at hstep
  | unwound text => simp [hphase] at hstep

theorem move_of_answered {slot : Nat} {answer : Answer ProbeReport}
    (hstep : watching.answered? slot answer = some next) : Move watching next [] := by
  unfold answered? at hstep
  simp only [Option.bind_eq_bind, Option.bind_eq_some_iff] at hstep
  obtain ⟨probe, hprobe, hstep⟩ := hstep
  split at hstep
  next hphase =>
    obtain rfl := Option.some.inj hstep
    exact .answer hprobe hphase
  next => simp at hstep

theorem move_of_drop {slot : Nat} (hstep : watching.drop? slot = some next) :
    Move watching next [] := by
  unfold drop? at hstep
  simp only [Option.bind_eq_bind, Option.bind_eq_some_iff] at hstep
  obtain ⟨probe, hprobe, hstep⟩ := hstep
  split at hstep
  next hphase =>
    simp only [Option.ite_none_right_eq_some, Option.some.injEq] at hstep
    obtain ⟨habandoned, rfl⟩ := hstep
    exact .drop hprobe hphase habandoned
  next => simp at hstep

/-- The monitor that sees its stop signal is over. -/
theorem over_of_quit (hstep : watching.quit? = some next) : next.monitor.phase = .over := by
  unfold quit? at hstep
  dsimp only at hstep
  split at hstep
  next =>
    split at hstep
    next => exact Option.some.inj hstep ▸ rfl
    next => exact Option.some.inj hstep ▸ rfl
    next => simp at hstep
  next => simp at hstep

/-- An answer is not written down at once. -/
theorem fleet_of_answered {slot : Nat} {answer : Answer ProbeReport}
    (hstep : watching.answered? slot answer = some next) : next.fleet = watching.fleet := by
  unfold answered? at hstep
  simp only [Option.bind_eq_bind, Option.bind_eq_some_iff] at hstep
  obtain ⟨probe, hprobe, hstep⟩ := hstep
  split at hstep
  next => exact Option.some.inj hstep ▸ rfl
  next => simp at hstep

theorem fleet_of_drop {slot : Nat} (hstep : watching.drop? slot = some next) :
    next.fleet = watching.fleet := by
  unfold drop? at hstep
  simp only [Option.bind_eq_bind, Option.bind_eq_some_iff] at hstep
  obtain ⟨probe, hprobe, hstep⟩ := hstep
  split at hstep
  next =>
    split at hstep
    next => exact Option.some.inj hstep ▸ rfl
    next => simp at hstep
  next => simp at hstep

/-- No move touches what belongs to the structural calls. -/
theorem Move.aside {commands : List Command} (hmove : Move watching next commands) :
    watching.fleet.Aside next.fleet := by
  cases hmove with
  | tick | gather | look | note | rest | join | ask | answer | word | discard | drop =>
      exact .refl _
  | refresh => exact .changeMember fun member _ => member.standing_refreshStoppedText _
  | recover => exact .degrade ..
  | quit => exact ⟨rfl, rfl, rfl, rfl, rfl, Nat.le_refl _, rfl, rfl⟩
  | @commit slot _ member _ _ _ _ hmember _ _ =>
      refine .trans (.changeMember ?_) (.recordState _ slot _ _)
      intro current hcurrent
      obtain rfl := Option.some.inj (hmember.symm.trans hcurrent)
      rfl
  | fail => exact .trans (.recordProbeFailure ..) (.degrade ..)

/-- What a probe says to the outside is only the question to its member. -/
theorem Move.commands_eq {commands : List Command} (hmove : Move watching next commands) :
    commands = [] ∨ ∃ slot config, commands = [.probe slot config] := by
  cases hmove with
  | ask => exact .inr ⟨_, _, rfl⟩
  | tick | gather | look | refresh | note | rest | join | recover | quit | answer | word | commit
  | discard | fail | drop => exact .inl rfl

end FleetControl.Watching
