import FleetControl.Proofs.Fleet.Round

/-!
# A round comes to its end

Once a round has begun, the monitor and its probes go on by themselves but for one answer of every
member that runs. Whatever these answers are, the round ends.
-/

namespace FleetControl

/-- The probe as it is begun. -/
def Watch.probe (watch : Watch) : Probe := { slot := watch.slot, seen := watch.seen }

/-- The monitor or one of its probes goes on. -/
def Event.IsOfMonitor : Event → Prop
  | .survey => True
  | .join => True
  | .probe _ => True
  | _ => False

/-- The probe has its answer. -/
def ProbePhase.isAnswered : ProbePhase → Bool
  | .begun => false
  | .asking .. => false
  | .healthy .. => true
  | .committing .. => true
  | .failing .. => true
  | .finished => true
  | .unwound _ => true

namespace System

/-- The monitor and its probes go on from one state to another, and ask nothing. -/
inductive Strolls (system : System) : System → Prop where
  | start : Strolls system system
  | next {last after : System} {event : Event} (earlier : Strolls system last)
      (hstep : last.step? event = some (after, [])) (hevent : event.IsOfMonitor) :
      Strolls system after

namespace Strolls

variable {system middle after : System}

theorem single {event : Event} (hstep : system.step? event = some (after, []))
    (hevent : event.IsOfMonitor) : Strolls system after :=
  .next .start hstep hevent

theorem trans (hleft : Strolls system middle) (hright : Strolls middle after) :
    Strolls system after := by
  induction hright with
  | start => exact hleft
  | next _ hstep hevent ih => exact .next ih hstep hevent

end Strolls

/-- The monitor has come to a slot, and none of the probes that it began has done anything yet. -/
structure Surveyed (slot : Nat) (begun : List Watch) (system : System) : Prop where
  looks : system.monitor.phase = .looking slot begun
  probes : system.probes = begun.map Watch.probe
  distinct : (begun.map Watch.slot).Nodup
  passed : ∀ watch ∈ begun, watch.slot < slot
  slot_le : slot ≤ system.fleet.members.length

/-- The monitor waits for probes. The first has come to a phase, and the others have not done
anything yet. -/
structure Joining (watch : Watch) (left : List Watch) (phase : ProbePhase) (system : System) :
    Prop where
  waits : system.monitor.phase = .joining (watch :: left)
  probes : system.probes = { watch.probe with phase } :: left.map Watch.probe
  distinct : ((watch :: left).map Watch.slot).Nodup
  placed : ∀ other ∈ watch :: left, other.slot < system.fleet.members.length

/-- The monitor waits for probes that have not done anything yet. -/
structure Gathered (left : List Watch) (system : System) : Prop where
  waits : system.monitor.phase = .joining left
  probes : system.probes = left.map Watch.probe
  distinct : (left.map Watch.slot).Nodup
  placed : ∀ watch ∈ left, watch.slot < system.fleet.members.length

/-- The first probe that is waited for has come to another phase. -/
def withFirst (system : System) (watch : Watch) (left : List Watch) (phase : ProbePhase) : System :=
  { system with probes := { watch.probe with phase } :: left.map Watch.probe }

variable {system : System} {slot : Nat} {begun left : List Watch} {watch : Watch}
  {phase : ProbePhase}

/-- A tick begins with the first member. -/
theorem exists_surveyed (tidy : system.watching.Tidy) (hidle : system.monitor.phase = .idle)
    (hdue : system.monitor.due ≤ system.fleet.clock.instant)
    (hstop : system.fleet.stopFired = false) :
    ∃ after, system.step? .tick = some (after, []) ∧ after.Surveyed 0 [] := by
  have hnone : system.probes = [] := by
    refine List.eq_nil_iff_forall_not_mem.mpr fun probe hprobe => ?_
    obtain ⟨watch, hwatch, -⟩ := tidy.awaited (by simp [watching, hidle]) probe hprobe
    simp [watching, hidle, MonitorPhase.pending] at hwatch
  have htick : system.step? .tick =
      some ({ system with
        monitor := { system.monitor with
          due := nextTick system.monitor.due system.fleet.clock.instant system.monitor.interval
          phase := .looking 0 [] } }, []) := by
    rw [step?, Watching.tick?, if_pos ⟨hidle, hdue, by simp [watching, hstop]⟩]
    rfl
  exact ⟨_, htick, rfl, hnone, .nil, List.forall_mem_nil _, Nat.zero_le _⟩

/-- Behind the last member the monitor waits for the probes. -/
theorem Surveyed.gathered (surveyed : system.Surveyed slot begun)
    (hlast : slot = system.fleet.members.length) :
    ∃ after, Strolls system after ∧ after.Gathered begun := by
  have hnone : system.fleet.member? slot = none := List.getElem?_eq_none (Nat.le_of_eq hlast.symm)
  have hstep : system.step? .survey =
      some ({ system with monitor := { system.monitor with phase := .joining begun } }, []) := by
    simp only [step?, Watching.survey?, watching, surveyed.looks, hnone, Option.map_some]
    rfl
  refine ⟨_, .single hstep trivial, rfl, surveyed.probes, surveyed.distinct, fun watch hwatch => ?_⟩
  exact hlast ▸ surveyed.passed watch hwatch

/-- The monitor passes a member, whether it runs or not. -/
theorem Surveyed.pass (surveyed : system.Surveyed slot begun)
    (hslot : slot < system.fleet.members.length) :
    ∃ after more, Strolls system after ∧ after.Surveyed (slot + 1) more ∧
      after.fleet.members.length = system.fleet.members.length := by
  obtain ⟨member, hmember⟩ := Fleet.exists_member? hslot
  have hpassed : ∀ watch ∈ begun, watch.slot < slot + 1 :=
    fun watch hwatch => Nat.lt_succ_of_lt (surveyed.passed watch hwatch)
  let met (phase : MonitorPhase) : System :=
    { system with monitor := { system.monitor with phase } }
  have hlook : system.step? .survey =
      some (met (if member.running then .noting slot begun else .refreshing slot begun), []) := by
    simp only [step?, Watching.survey?, watching, surveyed.looks, hmember, Option.map_some]
    rfl
  cases hrunning : member.running with
  | false =>
      rw [hrunning] at hlook
      have hrefresh : (met (.refreshing slot begun)).step? .survey =
          some ({ met (.looking (slot + 1) begun) with
            fleet := system.fleet.changeMember slot
              (·.refreshStoppedText system.fleet.clock.wall) }, []) := rfl
      refine ⟨_, begun, .next (.single hlook trivial) hrefresh trivial,
        ⟨rfl, surveyed.probes, surveyed.distinct, hpassed, ?_⟩, Fleet.size_changeMember ..⟩
      exact (Fleet.size_changeMember ..).symm ▸ hslot
  | true =>
      rw [hrunning] at hlook
      let watch : Watch := ⟨slot, member.transition.instant⟩
      have hnote : (met (.noting slot begun)).step? .survey =
          some ({ met (.looking (slot + 1) (begun ++ [watch])) with
            probes := system.probes ++ [watch.probe] }, []) := by
        simp only [step?, Watching.survey?, watching, met, hmember, Option.map_some]
        rfl
      refine ⟨_, begun ++ [watch], .next (.single hlook trivial) hnote trivial,
        ⟨rfl, ?_, ?_, ?_, hslot⟩, rfl⟩
      · simp [surveyed.probes]
      · -- Whoever is probed already comes before this slot.
        rw [List.map_append]
        refine List.nodup_append.mpr ⟨surveyed.distinct, List.nodup_singleton _, ?_⟩
        rintro _ hmem _ hnew
        obtain ⟨other, hother, rfl⟩ := List.mem_map.mp hmem
        rw [List.mem_singleton.mp hnew]
        exact Nat.ne_of_lt (surveyed.passed other hother)
      · intro other hother
        rcases List.mem_append.mp hother with hold | hnew
        · exact hpassed other hold
        · rw [List.mem_singleton.mp hnew]
          exact Nat.lt_succ_self slot

/-- The monitor comes to all members. -/
theorem Surveyed.exists_gathered (left : Nat) (surveyed : system.Surveyed slot begun)
    (hleft : slot + left = system.fleet.members.length) :
    ∃ after watches, Strolls system after ∧ after.Gathered watches := by
  induction left generalizing system slot begun with
  | zero =>
      obtain ⟨after, hstrolls, hgathered⟩ := surveyed.gathered hleft
      exact ⟨after, begun, hstrolls, hgathered⟩
  | succ left ih =>
      obtain ⟨middle, more, hpass, hsurveyed, hsize⟩ := surveyed.pass (by omega)
      obtain ⟨after, watches, hstrolls, hgathered⟩ := ih hsurveyed (by omega)
      exact ⟨after, watches, hpass.trans hstrolls, hgathered⟩

theorem Gathered.joining (gathered : system.Gathered (watch :: left)) :
    system.Joining watch left .begun :=
  ⟨gathered.waits, gathered.probes, gathered.distinct, gathered.placed⟩

/-- Once all probes have ended the round is over. -/
theorem Gathered.idle (gathered : system.Gathered []) :
    ∃ after, Strolls system after ∧ after.monitor.phase = .idle := by
  have hstep : system.step? .join =
      some ({ system with monitor := { system.monitor with phase := .idle } }, []) := by
    simp only [step?, Watching.join?, watching, gathered.waits, Option.map_some]
    rfl
  exact ⟨_, .single hstep trivial, rfl⟩

namespace Joining

variable (joining : system.Joining watch left phase)

include joining

theorem probe? : system.watching.probe? watch.slot = some { watch.probe with phase } := by
  rw [Watching.probe?, show system.watching.probes = _ from joining.probes]
  simp [Watch.probe]

theorem slot_ne {other : Watch} (hother : other ∈ left) : other.slot ≠ watch.slot := by
  have hfresh := (List.nodup_cons.mp joining.distinct).1
  exact fun hsame => hfresh (hsame ▸ List.mem_map_of_mem hother)

theorem setProbe_eq (other : ProbePhase) :
    system.watching.setProbe { watch.probe with phase := other } =
      (system.withFirst watch left other).watching := by
  have hkept : (left.map Watch.probe).map (fun p =>
      if p.slot = watch.slot then { watch.probe with phase := other } else p) =
      left.map Watch.probe := by
    rw [List.map_map]
    exact List.map_congr_left fun other hother => if_neg (joining.slot_ne hother)
  rw [Watching.setProbe, show system.watching.probes = _ from joining.probes, List.map_cons,
    if_pos rfl]
  exact congrArg (Watching.mk system.fleet system.monitor <| _ :: ·) hkept

theorem dropProbe_eq :
    system.watching.dropProbe watch.slot =
      { system.watching with probes := left.map Watch.probe } := by
  have hkept : (left.map Watch.probe).filter (·.slot ≠ watch.slot) = left.map Watch.probe := by
    refine List.filter_eq_self.mpr fun probe hprobe => ?_
    obtain ⟨other, hother, rfl⟩ := List.mem_map.mp hprobe
    exact decide_eq_true (joining.slot_ne hother)
  rw [Watching.dropProbe, show system.watching.probes = _ from joining.probes,
    List.filter_cons_of_neg (by simp [Watch.probe]), hkept]

theorem exists_member? : ∃ member, system.fleet.member? watch.slot = some member :=
  Fleet.exists_member? (joining.placed watch List.mem_cons_self)

/-- The first probe goes on, and may change records. -/
theorem go {fleet : Fleet} (hsize : fleet.members.length = system.fleet.members.length)
    (other : ProbePhase) :
    System.Joining watch left other { system.withFirst watch left other with fleet } :=
  ⟨joining.waits, rfl, joining.distinct, fun watch hwatch => hsize ▸ joining.placed watch hwatch⟩

theorem step?_probe {fleet : Fleet} {other : ProbePhase} {commands : List Command}
    (hadvance : system.watching.advance? watch.slot =
      some ({ system.watching.setProbe { watch.probe with phase := other } with fleet },
        commands)) :
    system.step? (.probe watch.slot) =
      some ({ system.withFirst watch left other with fleet }, commands) := by
  rw [step?, hadvance, joining.setProbe_eq]
  rfl

/-- The probe has ended, and the monitor waits for the others. -/
theorem join {fleet : Fleet} (hsize : fleet.members.length = system.fleet.members.length)
    (hjoin : system.watching.join? =
      some { (system.watching.dropProbe watch.slot).setPhase (.joining left) with fleet }) :
    ∃ after, Strolls system after ∧ after.Gathered left := by
  have hstep : system.step? .join = some ({ system with
      fleet, monitor := { system.monitor with phase := .joining left }
      probes := left.map Watch.probe }, []) := by
    rw [step?, hjoin, joining.dropProbe_eq]
    rfl
  refine ⟨_, .single hstep trivial, rfl, rfl, (List.nodup_cons.mp joining.distinct).2, ?_⟩
  exact fun other hother => hsize ▸ joining.placed other (List.mem_cons_of_mem _ hother)

end Joining

theorem Joining.ask (joining : system.Joining watch left .begun) :
    ∃ config started, system.step? (.probe watch.slot) =
        some (system.withFirst watch left (.asking config started), [.probe watch.slot config]) ∧
      (system.withFirst watch left (.asking config started)).Joining watch left
        (.asking config started) := by
  obtain ⟨member, hmember⟩ := joining.exists_member?
  have hsame : system.watching.fleet.member? watch.slot = some member := hmember
  refine ⟨member.config, system.fleet.clock.wall, joining.step?_probe ?_, joining.go rfl _⟩
  simp only [Watching.advance?, joining.probe?, hsame, Option.bind_eq_bind, Option.bind_some]
  rfl

/-- Whatever the answer is, the probe takes it. -/
theorem Joining.answer {config : MemberConfig} {started : Int}
    (joining : system.Joining watch left (.asking config started)) (answer : Answer ProbeReport) :
    ∃ phase : ProbePhase,
      system.step? (.answered watch.slot answer) = some (system.withFirst watch left phase, []) ∧
      (system.withFirst watch left phase).Joining watch left phase ∧ phase.isAnswered = true := by
  obtain ⟨other, hother, hanswered⟩ : ∃ other : ProbePhase, other.isAnswered = true ∧
      system.watching.answered? watch.slot answer =
        some (system.watching.setProbe { watch.probe with phase := other }) := by
    simp only [Watching.answered?, joining.probe?, Option.bind_eq_bind, Option.bind_some]
    refine ⟨_, ?_, rfl⟩
    cases answer with
    | unwound text => rfl
    | reply outcome =>
        cases outcome with
        | ok report => rfl
        | error fault =>
            dsimp only
            split <;> rfl
  refine ⟨other, ?_, joining.go rfl _, hother⟩
  rw [step?, hanswered, joining.setProbe_eq]
  rfl

theorem Joining.gathers_of_finished (joining : system.Joining watch left .finished) :
    ∃ after, Strolls system after ∧ after.Gathered left := by
  have hwaits : system.watching.monitor.phase = .joining (watch :: left) := joining.waits
  refine joining.join rfl ?_
  simp only [Watching.join?, hwaits, joining.probe?, Option.bind_eq_bind, Option.bind_some]
  rfl

theorem Joining.gathers_of_unwound {text : String}
    (joining : system.Joining watch left (.unwound text)) :
    ∃ after, Strolls system after ∧ after.Gathered left := by
  have hwaits : system.watching.monitor.phase = .joining (watch :: left) := joining.waits
  have hjoin : system.watching.join? = some
      { (system.watching.dropProbe watch.slot).setPhase (.joining left) with
        fleet := if system.fleet.rootFired then system.fleet
          else system.fleet.degrade watch.slot watch.seen "probing" system.fleet.clock.wall
            (unwindCause text) } := by
    simp only [Watching.join?, hwaits, joining.probe?, Option.bind_eq_bind, Option.bind_some]
    by_cases hroot : system.fleet.rootFired
    · rw [if_pos (show system.watching.fleet.rootFired from hroot), if_pos hroot]
      rfl
    · rw [if_neg (show ¬ system.watching.fleet.rootFired from hroot), if_neg hroot]
      rfl
  refine joining.join ?_ hjoin
  split
  next => rfl
  next => exact (Fleet.Aside.degrade ..).size

theorem Joining.gathers_of_committing {config : MemberConfig} {report : ProbeReport} {text : String}
    (joining : system.Joining watch left (.committing config report text)) :
    ∃ after, Strolls system after ∧ after.Gathered left := by
  obtain ⟨member, hmember⟩ := joining.exists_member?
  have hsame : system.watching.fleet.member? watch.slot = some member := hmember
  obtain ⟨fleet, hsize, hcommit⟩ : ∃ fleet : Fleet,
      fleet.members.length = system.fleet.members.length ∧
      system.watching.advance? watch.slot = some ({ system.watching.setProbe
        { watch.probe with phase := .finished } with fleet }, []) := by
    simp only [Watching.advance?, joining.probe?, hsame, Option.bind_eq_bind, Option.bind_some]
    cases hcommit : member.updateStatusSince watch.probe.seen
        (·.commit config.clientUrl text report) with
    | mk after committed =>
        cases committed with
        | true =>
            refine ⟨_, ?_, rfl⟩
            exact system.fleet.size_changeMember watch.slot fun _ => after
        | false => exact ⟨_, rfl, rfl⟩
  obtain ⟨after, hstrolls, hgathered⟩ := (joining.go hsize _).gathers_of_finished
  exact ⟨after, (Strolls.single (joining.step?_probe hcommit) trivial).trans hstrolls, hgathered⟩

theorem Joining.gathers_of_failing {fault : ProbeFault} {started : Int}
    (joining : system.Joining watch left (.failing fault started)) :
    ∃ after, Strolls system after ∧ after.Gathered left := by
  obtain ⟨member, hmember⟩ := joining.exists_member?
  have hsame : system.watching.fleet.member? watch.slot = some member := hmember
  let fleet := (system.fleet.recordProbeFailure watch.slot fault.stage).degrade watch.slot
    watch.seen fault.stage.activity started fault.source.message
  have hsize : fleet.members.length = system.fleet.members.length :=
    ((Fleet.Aside.recordProbeFailure ..).trans (Fleet.Aside.degrade ..)).size
  have hfail : system.watching.advance? watch.slot = some ({ system.watching.setProbe
      { watch.probe with phase := .finished } with fleet }, []) := by
    simp only [Watching.advance?, joining.probe?, hsame, Option.bind_eq_bind, Option.bind_some]
    rfl
  obtain ⟨after, hstrolls, hgathered⟩ := (joining.go hsize _).gathers_of_finished
  exact ⟨after, (Strolls.single (joining.step?_probe hfail) trivial).trans hstrolls, hgathered⟩

/-- A probe that has its answer comes to its end by itself. -/
theorem Joining.gathers (joining : system.Joining watch left phase)
    (hanswered : phase.isAnswered = true) :
    ∃ after, Strolls system after ∧ after.Gathered left := by
  obtain ⟨member, hmember⟩ := joining.exists_member?
  have hsame : system.watching.fleet.member? watch.slot = some member := hmember
  cases phase with
  | begun => simp [ProbePhase.isAnswered] at hanswered
  | asking => simp [ProbePhase.isAnswered] at hanswered
  | finished => exact joining.gathers_of_finished
  | unwound text => exact joining.gathers_of_unwound
  | failing fault started => exact joining.gathers_of_failing
  | committing config report text => exact joining.gathers_of_committing
  | healthy config report =>
      have hword : system.watching.advance? watch.slot = some (system.watching.setProbe
          { watch.probe with
            phase := .committing config report (member.healthyText system.fleet.clock.wall) },
          []) := by
        simp only [Watching.advance?, joining.probe?, hsame, Option.bind_eq_bind, Option.bind_some]
        rfl
      obtain ⟨after, hstrolls, hgathered⟩ := (joining.go rfl _).gathers_of_committing
      exact ⟨after, (Strolls.single (joining.step?_probe hword) trivial).trans hstrolls, hgathered⟩

end System

end FleetControl
