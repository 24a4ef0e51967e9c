import FleetControl.Proofs.Fleet.Agreement
import FleetControl.Proofs.Fleet.Isolation
import FleetControl.Proofs.Network.Cancellation

/-!
# Abandoned probes leave no trace

The answer of a probe that the root signal cuts short tells of the signal only. Such an answer is
not written down: neither when it comes, nor when the probe ends, nor when the monitor takes note of
that. So a fleet that is shut down does not take its members for unreachable, however its probes are
under way when the signal fires.
-/

namespace FleetControl

open Network

/-- The answer is what a probe comes to whose root signal fires before its end. -/
def CutShort (answer : Answer ProbeReport) : Prop :=
  ∃ (run : ProbeRun) (deadlines : Deadlines) (outcome : Except ProbeFault ProbeReport)
    (ending : Nanos) (issued : List ProbeStage) (signal : Int),
    run.Ends deadlines outcome ending issued ∧ signal < (ending : Int) ∧
      answer = .reply (run.probe (.ofMoment signal) deadlines).answer

theorem CutShort.exists_fault {answer : Answer ProbeReport} (hcut : CutShort answer) :
    ∃ fault, answer = .reply (.error fault) ∧ fault.isCancelled = true := by
  obtain ⟨run, deadlines, outcome, ending, issued, signal, hends, hearly, rfl⟩ := hcut
  obtain ⟨stage, hstage⟩ := hends.abandoned hearly
  exact ⟨⟨stage, .cancelled⟩, by rw [hstage], rfl⟩

/-- The phases of a probe that has nothing to tell of its member. -/
inductive ProbePhase.Silent : ProbePhase → Prop
  | begun : Silent .begun
  | asking {config : MemberConfig} {started : Int} : Silent (.asking config started)
  | finished : Silent .finished

/-- A step of the slot's probe, or the monitor's note of its end. -/
inductive System.ProbeTurn (system : System) (slot : Nat) : Event → Prop
  | probe : ProbeTurn system slot (.probe slot)
  | answered (answer : Answer ProbeReport) : ProbeTurn system slot (.answered slot answer)
  | drop : ProbeTurn system slot (.drop slot)
  | join {watch : Watch} {left : List Watch}
      (hphase : system.monitor.phase = .joining (watch :: left)) (hslot : watch.slot = slot) :
      ProbeTurn system slot .join

namespace Watching

variable {watching next : Watching} {slot other : Nat} {probe : Probe} {commands : List Command}

/-- No probe of the slot has anything to tell. -/
def Silent (watching : Watching) (slot : Nat) : Prop :=
  ∀ probe ∈ watching.probes, probe.slot = slot → probe.phase.Silent

namespace Silent

theorem phase (silent : watching.Silent slot) (hprobe : watching.probe? slot = some probe) :
    probe.phase.Silent :=
  silent probe (List.mem_of_find?_eq_some hprobe) (probe?_slot hprobe)

/-- Probes stay in their phases, begin or are gone. -/
theorem mono (silent : watching.Silent slot)
    (hprobes : ∀ probe ∈ next.probes, probe.phase = .begun ∨
      ∃ origin ∈ watching.probes, origin.slot = probe.slot ∧ origin.phase = probe.phase) :
    next.Silent slot := by
  intro probe hprobe hslot
  rcases hprobes probe hprobe with hbegun | ⟨origin, horigin, hsame, hphase⟩
  · exact hbegun ▸ .begun
  · exact hphase ▸ silent origin horigin (hsame.trans hslot)

theorem kept (silent : watching.Silent slot) (hprobes : next.probes = watching.probes) :
    next.Silent slot :=
  silent.mono fun probe hprobe => .inr ⟨probe, hprobes ▸ hprobe, rfl, rfl⟩

theorem dropProbe (silent : watching.Silent slot) (other : Nat) :
    (watching.dropProbe other).Silent slot :=
  silent.mono fun probe hprobe => .inr ⟨probe, (mem_of_mem_dropProbe hprobe).1, rfl, rfl⟩

/-- Of the slot's own probe, the new phase matters; of another one it does not. -/
theorem setProbe (silent : watching.Silent slot) (hprobe : watching.probe? other = some probe)
    {phase : ProbePhase} (hphase : other = slot → phase.Silent) :
    (watching.setProbe { probe with phase }).Silent slot := by
  intro found hfound hslot
  obtain ⟨origin, horigin, rfl⟩ := List.mem_map.mp hfound
  by_cases hset : origin.slot = probe.slot
  · rw [if_pos hset] at hslot ⊢
    exact hphase ((probe?_slot hprobe).symm.trans hslot)
  · rw [if_neg hset] at hslot ⊢
    exact silent origin horigin hslot

theorem tick (silent : watching.Silent slot) (hstep : watching.tick? = some next) :
    next.Silent slot := by
  simp only [tick?, Option.ite_none_right_eq_some, Option.some.injEq] at hstep
  obtain ⟨-, rfl⟩ := hstep
  exact silent.kept rfl

theorem survey (silent : watching.Silent slot) (hstep : watching.survey? = some next) :
    next.Silent slot := by
  unfold survey? at hstep
  split at hstep
  next =>
    split at hstep
    all_goals
      obtain rfl := Option.some.inj hstep
      exact silent.kept rfl
  next =>
    obtain rfl := Option.some.inj hstep
    exact silent.kept rfl
  next =>
    split at hstep
    next => simp at hstep
    next =>
      obtain rfl := Option.some.inj hstep
      refine silent.mono fun probe hprobe => ?_
      rcases List.mem_append.mp hprobe with hold | hnew
      · exact .inr ⟨probe, hold, rfl, rfl⟩
      · exact .inl (List.mem_singleton.mp hnew ▸ rfl)
  next => simp at hstep

/-- A probe that has nothing to tell is joined without a trace. -/
theorem join (silent : watching.Silent slot) (hstep : watching.join? = some next) :
    next.Silent slot ∧ ∀ watch left, watching.monitor.phase = .joining (watch :: left) →
      watch.slot = slot → next.fleet = watching.fleet := by
  unfold join? at hstep
  split at hstep
  next hphase =>
    obtain rfl := Option.some.inj hstep
    exact ⟨silent.kept rfl, fun _ _ _ _ => rfl⟩
  next watch left hphase =>
    simp only [Option.bind_eq_bind, Option.bind_eq_some_iff] at hstep
    obtain ⟨probe, hprobe, hstep⟩ := hstep
    have hdropped := silent.dropProbe watch.slot
    split at hstep
    next =>
      obtain rfl := Option.some.inj hstep
      exact ⟨hdropped.kept rfl, fun _ _ _ _ => rfl⟩
    next text hunwound =>
      split at hstep
      next =>
        obtain rfl := Option.some.inj hstep
        exact ⟨hdropped.kept rfl, fun _ _ _ _ => rfl⟩
      next =>
        obtain rfl := Option.some.inj hstep
        refine ⟨hdropped.kept rfl, fun own rest hsame hslot => ?_⟩
        -- Only a probe of another slot can have unwound.
        obtain ⟨rfl, -⟩ := List.cons.inj (MonitorPhase.joining.inj (hphase.symm.trans hsame))
        have hsilent := (hslot ▸ silent).phase hprobe
        rw [hunwound] at hsilent
        cases hsilent
    next => simp at hstep
  next => simp at hstep

theorem quit (silent : watching.Silent slot) (hstep : watching.quit? = some next) :
    next.Silent slot := by
  have hleft : ∀ probe ∈ (watching.probes.filter (·.phase ≠ .begun)).map
      ({ · with abandoned := true }),
      probe.phase = .begun ∨ ∃ origin ∈ watching.probes, origin.slot = probe.slot ∧
        origin.phase = probe.phase := by
    intro probe hprobe
    obtain ⟨origin, horigin, rfl⟩ := List.mem_map.mp hprobe
    exact .inr ⟨origin, List.mem_of_mem_filter horigin, rfl, rfl⟩
  unfold quit? at hstep
  dsimp only at hstep
  split at hstep
  next =>
    split at hstep
    next =>
      obtain rfl := Option.some.inj hstep
      exact silent.mono hleft
    next =>
      obtain rfl := Option.some.inj hstep
      exact silent.mono hleft
    next => simp at hstep
  next => simp at hstep

/-- A probe that has nothing to tell asks its member and does nothing else. -/
theorem advance (silent : watching.Silent slot)
    (hstep : watching.advance? other = some (next, commands)) :
    next.Silent slot ∧ (other = slot → next.fleet = watching.fleet) := by
  unfold advance? at hstep
  simp only [Option.bind_eq_bind, Option.bind_eq_some_iff] at hstep
  obtain ⟨probe, hprobe, member, -, hstep⟩ := hstep
  have hown : other = slot → probe.phase.Silent := fun hsame => (hsame ▸ silent).phase hprobe
  cases hphase : probe.phase with
  | begun =>
      simp only [hphase] at hstep
      obtain ⟨rfl, -⟩ := Prod.mk.inj (Option.some.inj hstep)
      exact ⟨silent.setProbe hprobe fun _ => .asking, fun _ => rfl⟩
  | healthy config report =>
      rw [hphase] at hown
      simp only [hphase] at hstep
      obtain ⟨rfl, -⟩ := Prod.mk.inj (Option.some.inj hstep)
      exact ⟨silent.setProbe hprobe fun hsame => (nomatch hown hsame), fun _ => rfl⟩
  | committing config report text =>
      rw [hphase] at hown
      simp only [hphase] at hstep
      have hset : (watching.setProbe { probe with phase := .finished }).Silent slot :=
        silent.setProbe hprobe fun _ => .finished
      split at hstep
      next =>
        obtain ⟨rfl, -⟩ := Prod.mk.inj (Option.some.inj hstep)
        exact ⟨hset.kept rfl, fun hsame => nomatch hown hsame⟩
      next =>
        obtain ⟨rfl, -⟩ := Prod.mk.inj (Option.some.inj hstep)
        exact ⟨hset, fun _ => rfl⟩
  | failing fault started =>
      rw [hphase] at hown
      simp only [hphase] at hstep
      obtain ⟨rfl, -⟩ := Prod.mk.inj (Option.some.inj hstep)
      have hset : (watching.setProbe { probe with phase := .finished }).Silent slot :=
        silent.setProbe hprobe fun _ => .finished
      exact ⟨hset.kept rfl, fun hsame => nomatch hown hsame⟩
  | asking config started => simp [hphase] at hstep
  | finished => simp [hphase] at hstep
  | unwound text => simp [hphase] at hstep

/-- An answer that was cut short ends the probe. -/
theorem answered (silent : watching.Silent slot) {answer : Answer ProbeReport}
    (hanswer : other = slot → CutShort answer)
    (hstep : watching.answered? other answer = some next) : next.Silent slot := by
  unfold answered? at hstep
  simp only [Option.bind_eq_bind, Option.bind_eq_some_iff] at hstep
  obtain ⟨probe, hprobe, hstep⟩ := hstep
  split at hstep
  next =>
    obtain rfl := Option.some.inj hstep
    refine silent.setProbe hprobe fun hsame => ?_
    obtain ⟨fault, rfl, hcancelled⟩ := (hanswer hsame).exists_fault
    simpa [hcancelled] using ProbePhase.Silent.finished
  next => simp at hstep

theorem drop (silent : watching.Silent slot) (hstep : watching.drop? other = some next) :
    next.Silent slot := by
  unfold drop? at hstep
  simp only [Option.bind_eq_bind, Option.bind_eq_some_iff] at hstep
  obtain ⟨probe, -, hstep⟩ := hstep
  split at hstep
  next =>
    simp only [Option.ite_none_right_eq_some, Option.some.injEq] at hstep
    obtain ⟨-, rfl⟩ := hstep
    exact silent.dropProbe other
  next => simp at hstep

end Silent

end Watching

namespace System

variable {system next first last : System} {event : Event} {commands : List Command} {slot : Nat}
  {moments : List (Moment System Event)}

/-- The calls and what comes from outside leave the probes where they are. -/
theorem probes_of_calls (hcalls : event.isOfCalls = true)
    (hstep : system.step? event = some (next, commands)) : next.probes = system.probes := by
  cases event with
  | call operation =>
      obtain ⟨rfl, -⟩ := Prod.mk.inj (Option.some.inj hstep)
      rfl
  | outside | ended =>
      simp only [step?, Option.map_eq_some_iff, Prod.mk.injEq] at hstep
      obtain ⟨_, -, rfl, -⟩ := hstep
      rfl
  | advance | launched | ready | abandoned =>
      obtain ⟨calling, -, rfl⟩ := exists_of_onCalling hstep
      rfl
  | tick | survey | join | quit | probe | answered | drop => simp [Event.isOfCalls] at hcalls

/-- While the answers of the slot's probes are cut short, these have nothing to tell, and whatever
step they take leaves the whole fleet as it is. -/
theorem silent_step (silent : system.watching.Silent slot)
    (hanswer : ∀ answer, event = .answered slot answer → CutShort answer)
    (hstep : system.step? event = some (next, commands)) :
    next.watching.Silent slot ∧ (system.ProbeTurn slot event → next.fleet = system.fleet) := by
  cases event with
  | outside | call | advance | launched | ready | abandoned | ended =>
      exact ⟨silent.kept (probes_of_calls rfl hstep), fun hturn => nomatch hturn⟩
  | tick =>
      obtain ⟨watching, hwatching, rfl, -⟩ := exists_of_onWatching hstep
      exact ⟨silent.tick hwatching, fun hturn => nomatch hturn⟩
  | survey =>
      obtain ⟨watching, hwatching, rfl, -⟩ := exists_of_onWatching hstep
      exact ⟨silent.survey hwatching, fun hturn => nomatch hturn⟩
  | quit =>
      obtain ⟨watching, hwatching, rfl, -⟩ := exists_of_onWatching hstep
      exact ⟨silent.quit hwatching, fun hturn => nomatch hturn⟩
  | join =>
      obtain ⟨watching, hwatching, rfl, -⟩ := exists_of_onWatching hstep
      obtain ⟨hsilent, hfleet⟩ := silent.join hwatching
      refine ⟨hsilent, fun hturn => ?_⟩
      cases hturn with
      | join hphase hslot => exact hfleet _ _ hphase hslot
  | probe other =>
      obtain ⟨watching, hwatching, rfl⟩ := exists_of_advance? hstep
      obtain ⟨hsilent, hfleet⟩ := silent.advance hwatching
      refine ⟨hsilent, fun hturn => ?_⟩
      cases hturn with
      | probe => exact hfleet rfl
  | answered other answer =>
      obtain ⟨watching, hwatching, rfl, -⟩ := exists_of_onWatching hstep
      refine ⟨silent.answered (fun hsame => hanswer answer (hsame ▸ rfl)) hwatching, fun _ => ?_⟩
      exact Watching.fleet_of_answered hwatching
  | drop other =>
      obtain ⟨watching, hwatching, rfl, -⟩ := exists_of_onWatching hstep
      exact ⟨silent.drop hwatching, fun _ => Watching.fleet_of_drop hwatching⟩

/-- So it is as long as the system goes on. -/
theorem silent_course (hcourse : Course step? first moments last)
    (silent : first.watching.Silent slot)
    (hanswers : ∀ moment ∈ moments, ∀ answer, moment.event = .answered slot answer →
      CutShort answer) :
    ∀ moment ∈ moments, moment.before.ProbeTurn slot moment.event →
      moment.after.fleet = moment.before.fleet := by
  intro moment hmem hturn
  obtain ⟨early, late, rfl, hearly, hstep, -⟩ := hcourse.cut hmem
  have hupto : ∀ moment ∈ early, ∀ answer, moment.event = .answered slot answer →
      CutShort answer := fun moment hmem => hanswers moment (List.mem_append_left _ hmem)
  have hbefore : moment.before.watching.Silent slot :=
    hearly.preserves_of_forall silent hupto fun hstep hanswer silent =>
      (silent_step silent hanswer hstep).1
  exact (silent_step hbefore (hanswers moment hmem) hstep).2 hturn

/-- A probe that waits for its answer can get one that was cut short, and has ended then. -/
theorem exists_answered {probe : Probe} {config : MemberConfig} {started : Int}
    {answer : Answer ProbeReport} (hprobe : system.watching.probe? slot = some probe)
    (hphase : probe.phase = .asking config started) (hcut : CutShort answer) :
    ∃ next, system.step? (.answered slot answer) = some (next, []) ∧
      next.fleet = system.fleet ∧
      next.watching.probe? slot = some { probe with phase := .finished } := by
  obtain ⟨fault, rfl, hcancelled⟩ := hcut.exists_fault
  let ended := system.watching.setProbe { probe with phase := .finished }
  have hstep : system.watching.answered? slot (.reply (.error fault)) = some ended := by
    simp [Watching.answered?, hprobe, hphase, hcancelled, ended]
  refine ⟨system.withWatching ended, ?_, rfl, Watching.probe?_setProbe hprobe .finished⟩
  rw [step?, hstep]
  rfl

end System

/-- A probe that is left alone ends in one way and at one moment. If the root signal fires before
that, even before the probe begins, the probe is cancelled; if it fires later, the probe ends as it
would anyway. The hash call is never made unless the status query succeeded. A probe in a fleet can
always get an answer that was cut short, and ends with it. As long as all answers of a slot's probes
are cut short, no step of these probes changes anything in the fleet, neither a record nor a gauge
nor a count of failures, and nor does the monitor when it takes note of their ends. -/
theorem root_signal_degrades_nobody :
    (∀ (run : ProbeRun) (deadlines : Deadlines), ∃ answer ending issued,
      (∀ other moment calls, run.Ends deadlines other moment calls ↔
        other = answer ∧ moment = ending ∧ calls = issued) ∧
      run.probe none deadlines = ⟨answer, ending, issued⟩ ∧
      (∀ signal : Int, signal < (ending : Int) → ∃ fault,
        (run.probe (.ofMoment signal) deadlines).answer = .error fault ∧
          fault.isCancelled = true) ∧
      ∀ signal : Int, (ending : Int) < signal →
        run.probe (.ofMoment signal) deadlines = ⟨answer, ending, issued⟩) ∧
    (∀ (run : ProbeRun) (deadlines : Deadlines) (cancel : CancelTime),
      .hash ∈ (run.probe cancel deadlines).issued → ∃ status elapsed,
        run.Reports deadlines status elapsed ∧
          (run.queryStatus cancel deadlines).answer = .ok status) ∧
    ∀ slot,
      (∀ (system : System) probe config started answer,
        system.watching.probe? slot = some probe → probe.phase = .asking config started →
        CutShort answer → ∃ next, system.step? (.answered slot answer) = some (next, []) ∧
          next.fleet = system.fleet ∧
          next.watching.probe? slot = some { probe with phase := .finished }) ∧
      ∀ first moments last, Course System.step? first moments last →
        first.watching.Silent slot →
        (∀ moment ∈ moments, ∀ answer, moment.event = .answered slot answer → CutShort answer) →
        ∀ moment ∈ moments, moment.before.ProbeTurn slot moment.event →
          moment.after.fleet = moment.before.fleet := by
  refine ⟨fun run deadlines => ?_, fun run deadlines cancel => ProbeRun.reports_of_issued,
    fun slot => ⟨?_, ?_⟩⟩
  · obtain ⟨answer, ending, issued, hends⟩ := run.exists_ends deadlines
    refine ⟨answer, ending, issued, fun other moment calls => ?_, hends.probe_eq,
      fun signal hearly => ?_, fun signal hlate => hends.undisturbed hlate⟩
    · rw [ProbeRun.ends_iff, hends.probe_eq, Progress.mk.injEq]
      simp only [eq_comm]
    · obtain ⟨stage, hstage⟩ := hends.abandoned hearly
      exact ⟨⟨stage, .cancelled⟩, hstage, rfl⟩
  · intro system probe config started answer hprobe hphase hcut
    exact System.exists_answered hprobe hphase hcut
  · intro first moments last hcourse silent hanswers
    exact System.silent_course hcourse silent hanswers

/-- A probe of four calls, each of which takes two units of time and succeeds. -/
def slowRun : ProbeRun where
  firstDial := ⟨some 2, .ok ()⟩
  status := ⟨some 2, .ok ⟨some 7, 7, 2048⟩⟩
  secondDial := ⟨some 2, .ok ()⟩
  hash := ⟨some 2, .ok 42⟩

/-- Deadlines that these calls meet. -/
def slowDeadlines : Deadlines := ⟨3, 2⟩

theorem ends_slowRun : slowRun.Ends slowDeadlines (.ok ⟨⟨7, 7, 2048⟩, 42⟩) 8
    [.client, .status, .dial, .hash] :=
  ProbeRun.ends_iff.mpr rfl

/-- The only member of the smallest fleet is asked, and the root signal fires during the second
connection: the fleet stays as it is. Fired after the probe, the signal changes nothing. -/
theorem solo_member_is_not_degraded :
    ∃ fleet member next, Started soloSettings fleet ∧ fleet.member? 0 = some member ∧
      (∃ fault, (slowRun.probe (.ofMoment 5) slowDeadlines).answer = .error fault ∧
        fault.isCancelled = true) ∧
      slowRun.probe (.ofMoment 9) slowDeadlines =
        ⟨.ok ⟨⟨7, 7, 2048⟩, 42⟩, 8, [.client, .status, .dial, .hash]⟩ ∧
      (∃ status elapsed, slowRun.Reports slowDeadlines status elapsed ∧
        (slowRun.queryStatus none slowDeadlines).answer = .ok status) ∧
      System.step?
        { System.ofStart fleet 0 with
          probes := [⟨0, member.transition.instant, .asking member.config 0, false⟩] }
        (.answered 0 (.reply (slowRun.probe (.ofMoment 5) slowDeadlines).answer)) =
          some (next, []) ∧
      next.fleet = fleet := by
  obtain ⟨fleet, member, hstarted, hmember⟩ := started_solo
  obtain ⟨hruns, hissued, hfleet⟩ := root_signal_degrades_nobody
  obtain ⟨answer, ending, issued, hends, -, hearly, hlate⟩ := hruns slowRun slowDeadlines
  obtain ⟨rfl, rfl, rfl⟩ := (hends _ _ _).mp ends_slowRun
  have hcut : CutShort (.reply (slowRun.probe (.ofMoment 5) slowDeadlines).answer) :=
    ⟨_, _, _, _, _, 5, ends_slowRun, by decide, rfl⟩
  let system : System :=
    { System.ofStart fleet 0 with
      probes := [⟨0, member.transition.instant, .asking member.config 0, false⟩] }
  obtain ⟨hanswered, hturns⟩ := hfleet 0
  obtain ⟨next, hstep, -, -⟩ := hanswered system _ _ _ _ rfl rfl hcut
  have silent : system.watching.Silent 0 := by
    intro probe hprobe _
    obtain rfl := List.mem_singleton.mp hprobe
    exact .asking
  have hkept := hturns system _ next (.single hstep) silent (by simpa using hcut) _
    List.mem_cons_self (.answered _)
  exact ⟨fleet, member, next, hstarted, hmember, hearly 5 (by decide), hlate 9 (by decide),
    hissued slowRun slowDeadlines none (by decide), hstep, hkept⟩

end FleetControl
