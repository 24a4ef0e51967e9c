import FleetControl.Proofs.Simulation.Calls
import FleetControl.Proofs.Simulation.Muster

/-!
# A round shows the simulated fleet as it is

After a round in which nothing else happens the records show what is true of the simulated members:
which of them run and can be reached, and which one leads. Whatever was called before, and whichever
faults were brought upon them, nothing stale is left.
-/

namespace FleetControl

open FleetControl.Number

/-- The slots that hold a process. -/
def Fleet.occupied (fleet : Fleet) : List Nat :=
  (List.range fleet.slots.length).filter fun slot => (fleet.process? slot).isSome

theorem Fleet.mem_occupied {fleet : Fleet} {slot : Nat} :
    slot ∈ fleet.occupied ↔ (fleet.process? slot).isSome := by
  rw [occupied, List.mem_filter, List.mem_range, and_iff_right_iff_imp]
  intro hprocess
  obtain ⟨handle, hprocess⟩ := Option.isSome_iff_exists.mp hprocess
  exact (List.getElem?_eq_some_iff.mp (process?_eq_some_iff.mp hprocess)).1

namespace Simulation

namespace SimulatedFleet

variable {sim : SimulatedFleet} {slot : Nat}

/-- A member that fails to answer does not tell of the root signal. -/
theorem not_cancelled_of_respond {fault : ProbeFault}
    (hanswer : (respond slot sim).2 = .reply (.error fault)) : fault.isCancelled = false := by
  unfold respond at hanswer
  split at hanswer
  next => simp at hanswer
  next =>
    split at hanswer
    next =>
      obtain rfl := Except.error.inj (Answer.reply.inj hanswer)
      rfl
    next =>
      dsimp only at hanswer
      split at hanswer <;> simp at hanswer

/-- A member that does not run, cannot be reached or unwinds the question is shown stopped. -/
theorem quiet_of_reflects {status : MemberStatus}
    (hdown : slot ∉ sim.running ∨ slot ∈ sim.unreachable ∨ slot ∈ sim.unwinding)
    (hreflects : status.Reflects (respond slot sim).2) : status.Quiet := by
  unfold respond at hreflects
  split at hreflects
  next => exact hreflects
  next hunwinding =>
    split at hreflects
    next => exact hreflects
    next hup =>
      rw [not_or, not_not] at hup
      rcases hdown with hrunning | hunreachable | hmem
      · exact absurd hup.1 hrunning
      · exact absurd hunreachable hup.2
      · exact absurd hmem hunwinding

/-- The lowest member that runs reports itself the leader, as long as more than half of the fleet
runs. -/
theorem isLeader_report (hrunning : slot ∈ sim.running) :
    (sim.report slot).status.isLeader = true ↔
      sim.size < sim.running.length * 2 ∧ ∀ other ∈ sim.running, slot ≤ other := by
  have hleads : (sim.report slot).status.isLeader = true ↔ sim.leader? = some slot := by
    cases hleader : sim.leader? with
    | none => simp [report, hleader, StatusReport.isLeader, StatusReport.hasLeader]
    | some leader =>
        simp [report, hleader, StatusReport.isLeader, StatusReport.hasLeader, memberIdOf]
  rw [hleads, leader?, elected]
  split
  next hmajority =>
    rw [List.min?_eq_some_iff]
    simp [hmajority, hrunning]
  next hminority => simp [hminority]

end SimulatedFleet

namespace Timeline

variable {settings : FleetSettings} {line next last : Timeline SimulatedFleet} {slot : Nat}

/-- The monitor has seen that the member runs, and is about to note its last transition. -/
def Noting (line : Timeline SimulatedFleet) (slot : Nat) : Prop :=
  ∃ system begun, line.stage = .running system ∧ system.monitor.phase = .noting slot begun

/-- No process leaves the slot between the monitor's look at the member and the note of its last
transition. -/
def Apart (slot : Nat) (history : List (Moment (Timeline SimulatedFleet) Cue)) : Prop :=
  ∀ moment ∈ history, moment.before.Noting slot →
    moment.after.fleet.process? slot = moment.before.fleet.process? slot

/-- So it is wherever calls are complete before the monitor comes to the member. -/
theorem apart_of_complete {history : List (Moment (Timeline SimulatedFleet) Cue)}
    (mirrors : ∃ notes, line.Mirrors settings notes) (hcourse : Course play? line history last)
    (hcomplete : ∀ moment ∈ history, ∀ system begun, moment.before.stage = .running system →
      system.monitor.phase = .noting slot begun → system.underway? = none) :
    Apart slot history := by
  rintro moment hmem ⟨system, begun, hstage, hphase⟩
  obtain ⟨early, late, -, hearly, hplay, -⟩ := hcourse.cut hmem
  obtain ⟨notes, before⟩ := Mirrors.course mirrors hearly
  have hnone := hcomplete moment hmem system begun hstage hphase
  cases beat_of_play? before.around before.lawful (fun _ => before.sound) hplay with
  | still _ _ _ hnext => rw [hnext, fleet, fleet]
  | start hstarting => simp [hstage] at hstarting
  | enter hstarting => simp [hstage] at hstarting
  | @run _ _ _ after _ _ hrunning hstep _ _ hnext =>
      obtain rfl := Stage.running.inj (hstage.symm.trans hrunning)
      have hafter : moment.after.stage = .running after := by
        rw [hnext, stage_follow]
        exact before.around
      obtain ⟨-, hstepped⟩ := System.step_of_step? (before.sound hstage).orderly hstep
      have hslots := hstepped.slots_eq hnone
      simp only [fleet, hstage, hafter]
      exact congrArg (·[slot]?.join) hslots

/-- While no shutdown was called, a member that does not run is at rest. -/
def Rests (line : Timeline SimulatedFleet) (slot : Nat) : Prop :=
  ∀ system, line.stage = .running system → system.fleet.shutDown = false →
    ∀ member, system.fleet.member? slot = some member → member.running = false →
    system.Resting slot

namespace Rests

theorem step {notes : List EngineNote} {system after : System} {event : Event}
    {commands : List Command} {size : Nat} {running : List Nat}
    (mirrored : system.Mirrored size notes running)
    (hrests : ∀ member, system.fleet.member? slot = some member → member.running = false →
      system.Resting slot)
    (happart : (∃ begun, system.monitor.phase = .noting slot begun) →
      after.fleet.process? slot = system.fleet.process? slot)
    (hstep : system.step? event = some (after, commands)) (hopen : after.fleet.shutDown = false)
    {member : Member} (hmember : after.fleet.member? slot = some member)
    (hstopped : member.running = false) : after.Resting slot := by
  obtain ⟨-, hstepped⟩ := System.step_of_step? mirrored.sound.orderly hstep
  by_cases hmark : ∃ kind, system.recorded? event = some (slot, kind)
  · -- Of what can be recorded of the member only its own stop leaves it at rest.
    obtain ⟨kind, hmark⟩ := hmark
    have hturn := hstepped.turn_of_recorded hmark
    rcases hturn.kind_cases with rfl | rfl | ⟨call, hunderway, hoperation⟩
    · refine mirrored.attended.resting hstep hmark fun begun hphase => ?_
      have hsame := happart ⟨begun, hphase⟩
      have hoccupied := hturn.occupied_of_stop
      rw [← hsame, hturn.emptied] at hoccupied
      simp at hoccupied
    · obtain ⟨old, -, hturned⟩ := hturn.exists_member? hmember
      simp [hturned.running_eq] at hstopped
    · have hshut := mirrored.sound.shutting.shut_of_underway hunderway hoperation
      simp [hstepped.isOpen hopen] at hshut
  · have hnone : ∀ kind, system.recorded? event ≠ some (slot, kind) :=
      fun kind hkind => hmark ⟨kind, hkind⟩
    obtain ⟨old, hold, -, hrunning⟩ := hstepped.standing_eq hnone hmember
    exact (hrests old hold (hrunning.symm.trans hstopped)).step hstep hnone

/-- A fleet that has only just started has no member that does not run. -/
theorem beat {notes : List EngineNote} (mirrors : line.Mirrors settings notes)
    (hrests : line.Rests slot) (beat : Beat line next)
    (happart : line.Noting slot → next.fleet.process? slot = line.fleet.process? slot) :
    next.Rests slot := by
  intro system hrunning hopen member hmember hstopped
  cases beat with
  | still _ _ _ hnext =>
      subst hnext
      exact hrests system hrunning hopen member hmember hstopped
  | @start _ _ _ after _ _ _ _ _ _ hnext =>
      have hnow : next.stage = .starting after := by
        rw [hnext, stage_follow]
        exact mirrors.around
      simp [hnow] at hrunning
  | enter hstage hphase _ hnext =>
      subst hnext
      obtain rfl := Stage.running.inj hrunning
      have hmirrored := mirrors.stage
      rw [hstage] at hmirrored
      have hup := (hmirrored.1.started hphase).running hmember
      simp [hup] at hstopped
  | @run _ _ _ after _ _ hstage hstep _ _ hnext =>
      have hnow : next.stage = .running after := by
        rw [hnext, stage_follow]
        exact mirrors.around
      obtain rfl := Stage.running.inj (hnow.symm.trans hrunning)
      have mirrored := mirrors.mirrored hstage
      obtain ⟨-, hstepped⟩ := System.step_of_step? mirrored.sound.orderly hstep
      refine step mirrored (hrests _ hstage (hstepped.isOpen hopen)) ?_ hstep hopen hmember hstopped
      rintro ⟨begun, hphase⟩
      simpa [fleet, hstage, hnow] using happart ⟨_, begun, hstage, hphase⟩

theorem course {history : List (Moment (Timeline SimulatedFleet) Cue)}
    (mirrors : ∃ notes, line.Mirrors settings notes) (hrests : line.Rests slot)
    (hcourse : Course play? line history last) (happart : Apart slot history) :
    last.Rests slot := by
  induction hcourse with
  | start => exact hrests
  | next earlier hplay ih =>
      obtain ⟨hearly, hlast⟩ := List.forall_mem_append.mp happart
      obtain ⟨notes, before⟩ := Mirrors.course mirrors earlier
      exact (ih hearly).beat before
        (beat_of_play? before.around before.lawful (fun _ => before.sound) hplay)
        (hlast _ List.mem_cons_self)

end Rests

end Timeline

/-- A snapshot shows what is true of a member in a fleet of this size. -/
structure Truthful (size : Nat) (fleet : Fleet) (sim : SimulatedFleet) (slot : Nat)
    (status : MemberStatus) : Prop where
  runs : slot ∈ sim.running ↔ (fleet.process? slot).isSome
  down : fleet.process? slot = none ∨ slot ∈ sim.unreachable ∨ slot ∈ sim.unwinding →
    status.Quiet
  up : (fleet.process? slot).isSome → slot ∉ sim.unreachable → slot ∉ sim.unwinding →
    (status.isLeader = true ↔
      size < fleet.occupied.length * 2 ∧ ∀ other ∈ fleet.occupied, slot ≤ other) ∧
    status.state = .ofLeadership status.isLeader ∧
    status.id = hexadecimal (memberIdOf slot) ∧ status.dbSize = simulatedDbSize ∧
    status.hash = simulatedHash

section Roles

variable {sim : SimulatedFleet} {slot size : Nat} {fleet : Fleet} {status : MemberStatus}
  (shown : Truthful size fleet sim slot status) (hprocess : (fleet.process? slot).isSome)
  (hreachable : slot ∉ sim.unreachable) (hsound : slot ∉ sim.unwinding)

include shown hprocess hreachable hsound

theorem Truthful.leading (hmajority : size < fleet.occupied.length * 2)
    (hlowest : ∀ other ∈ fleet.occupied, slot ≤ other) : status.state = .leader := by
  obtain ⟨hleader, hstate, -⟩ := shown.up hprocess hreachable hsound
  rw [hstate, hleader.mpr ⟨hmajority, hlowest⟩]
  rfl

theorem Truthful.following {other : Nat} (hother : other ∈ fleet.occupied)
    (hlower : other < slot) : status.state = .follower := by
  obtain ⟨hleader, hstate, -⟩ := shown.up hprocess hreachable hsound
  have hfollows : status.isLeader = false := by
    rw [← Bool.not_eq_true, hleader]
    exact fun hleads => absurd (hleads.2 other hother) (by omega)
  rw [hstate, hfollows]
  rfl

end Roles

section Truthful

variable {settings : FleetSettings} {sim : SimulatedFleet} {slot size : Nat} {fleet : Fleet}
  {status : MemberStatus} (hoccupied : ∀ slot, slot ∈ sim.running ↔ (fleet.process? slot).isSome)

include hoccupied

/-- The members that run are counted by their slots. -/
theorem length_occupied (hnodup : sim.running.Nodup) :
    fleet.occupied.length = sim.running.length := by
  have hfilter : fleet.occupied.Nodup := List.nodup_range.filter _
  refine ((List.perm_ext_iff_of_nodup hfilter hnodup).mpr fun slot => ?_).length_eq
  rw [hoccupied]
  exact Fleet.mem_occupied

theorem Truthful.of_quiet (hempty : fleet.process? slot = none) (hquiet : status.Quiet) :
    Truthful size fleet sim slot status where
  runs := hoccupied slot
  down _ := hquiet
  up hprocess := by simp [hempty] at hprocess

theorem Truthful.of_reflects (hsize : sim.size = size) (hnodup : sim.running.Nodup)
    (hleaderless : sim.leaderless = 0) (hprocess : (fleet.process? slot).isSome)
    (hreflects : status.Reflects (SimulatedFleet.respond slot sim).2) :
    Truthful size fleet sim slot status where
  runs := hoccupied slot
  down hdown := by
    refine SimulatedFleet.quiet_of_reflects (hdown.imp_left fun hempty => ?_) hreflects
    simp [hempty] at hprocess
  up _ hreachable hsound := by
    have hrunning := (hoccupied slot).mpr hprocess
    rw [SimulatedFleet.respond_snd hrunning hreachable hsound hleaderless] at hreflects
    obtain ⟨hstate, hleads, hid, hdata, hhash⟩ := hreflects
    refine ⟨?_, ?_, hid, hdata, hhash⟩
    · rw [hleads, SimulatedFleet.isLeader_report hrunning, length_occupied hoccupied hnodup, hsize]
      simp only [hoccupied, Fleet.mem_occupied]
    · rw [hstate, hleads]

end Truthful

/-- Whatever the fleet went through before, one round in which nothing else happens shows every
member as it is. The root signal has not fired, every report names the leader there is, and no
process left the slot between the monitor's two looks at the member. -/
theorem quiet_round_shows_ground_truth {settings : FleetSettings} {opDelay : Nanos}
    {token : String} {files : Files} {cancelAt : Option Nanos} {slot : Nat}
    {first line last : Timeline SimulatedFleet}
    {history : List (Moment (Timeline SimulatedFleet) Cue)}
    (hopening : Timeline.opening SimulatedFleet.surroundings
      { size := settings.fleet.size.toNat, opDelay } settings token files cancelAt = .begun first)
    (hhistory : Course Timeline.play? first history line) (happart : Timeline.Apart slot history)
    (hround : line.QuietRound last) (hroot : line.fleet.rootFired = false)
    (hleaderless : line.world.leaderless = 0) (hslot : slot < settings.fleet.size.toNat) :
    ∃ member, last.fleet.member? slot = some member ∧
      Truthful settings.fleet.size.toNat last.fleet last.world slot member.status := by
  obtain ⟨mirrorsFirst, start, hstarting⟩ := Timeline.Mirrors.opening hopening
  have hrests : line.Rests slot :=
    .course mirrorsFirst (fun system hrunning => by simp [hstarting] at hrunning) hhistory happart
  obtain ⟨notes, mirrors⟩ := Timeline.Mirrors.course mirrorsFirst hhistory
  obtain ⟨system, begun, after, commands, hstage, htick, hidle, hafter, hworld, moments, hcourse,
    hevents⟩ := hround.exists_round ⟨notes, mirrors⟩ hleaderless
  have mirrored := mirrors.mirrored hstage
  have hroot : system.fleet.rootFired = false := by simpa [Timeline.fleet, hstage] using hroot
  have hshut : system.fleet.shutDown = false := by
    cases hshut : system.fleet.shutDown with
    | false => rfl
    | true => simp [mirrored.warned hshut] at hroot
  -- The slots stay as they are, and so do the members that run.
  have hwhole := (Course.single htick).append hcourse
  have hquiet : ∀ moment ∈ ⟨system, .tick, commands, begun⟩ :: moments,
      moment.event.Undisturbed fun slot => (SimulatedFleet.respond slot line.world).2 :=
    List.forall_mem_cons.mpr ⟨trivial, hevents⟩
  have haside := (System.aside_of_undisturbed_course hwhole hquiet).1
  have hprocess : ∀ slot, after.fleet.process? slot = system.fleet.process? slot :=
    fun slot => congrArg (·[slot]?.join) haside.slots
  have hlt : slot < after.fleet.members.length := by rwa [haside.size, mirrored.size]
  obtain ⟨member, hmember⟩ := Fleet.exists_member? hlt
  obtain ⟨old, hold, -⟩ := haside.exists_member? hmember
  have hoccupied : ∀ slot, slot ∈ line.world.running ↔ (after.fleet.process? slot).isSome := by
    intro slot
    rw [hprocess, mirrored.occupied]
  simp only [Timeline.fleet, hafter, hworld]
  refine ⟨member, hmember, ?_⟩
  cases hempty : system.fleet.process? slot with
  | none =>
      have hresting := hrests system hstage hshut old hold (mirrored.matched.stopped hold hempty)
      have hrested := hresting.course hwhole (System.unmarked_of_undisturbed hquiet slot)
      exact .of_quiet hoccupied ((hprocess slot).trans hempty) (hrested.quiet member hmember)
  | some handle =>
      have hreflects := mirrored.attended.reflects_of_round htick hcourse hevents hidle hroot
        (fun _ => SimulatedFleet.not_cancelled_of_respond) hold
        (mirrored.matched.running hold hempty) hmember
      have hfilled : (after.fleet.process? slot).isSome := by simp [hprocess, hempty]
      exact .of_reflects hoccupied mirrors.size mirrors.nodup hleaderless hfilled hreflects

/-- A monitor that waits for its next round notes nothing. -/
theorem Timeline.Calm.not_noting {monitor : Monitor}
    {moment : Moment (Timeline SimulatedFleet) Cue} (calm : Calm monitor moment)
    (hidle : monitor.phase = .idle) (slot : Nat) : ¬ moment.before.Noting slot := by
  rintro ⟨system, begun, hrunning, hphase⟩
  obtain ⟨found, hstage, hmonitor⟩ := calm.running
  obtain rfl := Stage.running.inj (hstage.symm.trans hrunning)
  simp [hmonitor, hidle] at hphase

/-- In a fleet of five a member was stopped, one unwinds what asks it, one cannot be reached, and
the monitor's time has come. -/
theorem exists_troubled_crew : ∃ first history line system,
    Timeline.opening SimulatedFleet.surroundings
      { size := (swiftCrew 5).fleet.size.toNat, opDelay := 0 } (swiftCrew 5) "crew" {} none =
        .begun first ∧
    Course Timeline.play? first history line ∧
    (∀ moment ∈ history, ∀ slot, ¬ moment.before.Noting slot) ∧
    line.stage = .running system ∧ system.monitor.phase = .idle ∧
    system.monitor.due ≤ system.fleet.clock.instant ∧ system.fleet.stopFired = false ∧
    system.fleet.rootFired = false ∧ line.world.leaderless = 0 ∧
    line.world.running.Perm [1, 2, 3, 4] ∧ line.world.unwinding = [3] ∧
    line.world.unreachable = [4] := by
  obtain ⟨first, early, started, fleet, hopening, hearly, hstarting, hstage, hfleet, hpending, hale,
    hall, hroot⟩ := crew_starts (show 4 + 1 = (5 : UInt64).toNat from rfl) (by decide) "crew"
  obtain ⟨notes, mirrors⟩ :=
    Timeline.Mirrors.course (Timeline.Mirrors.opening hopening).1 hearly
  obtain ⟨member, handle, hmember, hprocess⟩ :=
    hfleet.exists_seated (show 0 < (swiftCrew 5).fleet.size.toNat by decide)
  let begun := System.ofStart fleet (swiftCrew 5).monitor.tickInterval
  obtain ⟨calls, hcalm, hcalls⟩ :=
    Timeline.exists_stopped begun mirrors.around hale.opDelay hmember hprocess
  rw [Timeline.having_ofStart hstage hpending] at hcalls
  let stopped := (fleet.waited (Calling.cooledAt fleet 0)).release 0 .stop
  let ended : Call := ⟨0, .stop 0, .finished (.ok ())⟩
  let halved := (started.world.hardStop 0).ended 0
  let line (world : SimulatedFleet) (fleet : Fleet) : Timeline SimulatedFleet :=
    started.having world (begun.having fleet [ended] []) []
  let unsound := halved.suffer (.unwinding 3)
  let troubled := unsound.suffer (.unreachable 4 true)
  let due := stopped.waited begun.monitor.due
  have hunsound : (line halved stopped).play? (.fault (.unwinding 3)) =
      some (line unsound stopped, []) := Timeline.having_fault _
  have hunreachable : (line unsound stopped).play? (.fault (.unreachable 4 true)) =
      some (line troubled stopped, []) := Timeline.having_fault _
  have hdue : (line troubled stopped).play? (.outside (.time
        { stopped.clock with instant := max begun.monitor.due stopped.clock.instant })) =
      some (line troubled due, []) := Timeline.having_outside (System.having_wait begun _)
  have htroubles := ((Course.single hunsound).append (.single hunreachable)).append (.single hdue)
  refine ⟨first, _, line troubled due, begun.having due [ended] [], hopening,
    hearly.append (hcalls.append htroubles), ?_, rfl, rfl, Nat.le_max_left ..,
    hfleet.fledgling.watched, hroot, hale.leaderless, ?_, ?_, ?_⟩
  · refine List.forall_mem_append.mpr ⟨fun moment hmem slot => ?_, fun moment hmem slot => ?_⟩
    · rintro ⟨system, noted, hrunning, -⟩
      obtain ⟨start, hbefore⟩ := hstarting moment hmem
      simp [hbefore] at hrunning
    · have calm : Timeline.Calm begun.monitor moment := by
        rcases List.mem_append.mp hmem with hstop | htrouble
        · exact hcalm moment hstop
        · simp only [List.mem_append, List.mem_singleton, or_assoc] at htrouble
          rcases htrouble with rfl | rfl | rfl <;> exact ⟨⟨_, rfl, rfl⟩, by simp⟩
      exact calm.not_noting rfl slot
  · exact hall.erase 0
  · exact congrArg (List.insert 3) hale.unwinding
  · exact congrArg (List.insert 4) hale.unreachable

/-- In such a fleet a round shows the stopped member, the one that unwinds and the one that cannot
be reached as stopped, though the last two have their processes, and of the others the lower one as
the leader. -/
theorem mixed_quiet_round_shows_ground_truth : ∃ first history line last leader follower,
    Timeline.opening SimulatedFleet.surroundings
      { size := (swiftCrew 5).fleet.size.toNat, opDelay := 0 } (swiftCrew 5) "crew" {} none =
        .begun first ∧
    Course Timeline.play? first history line ∧ (∀ slot, Timeline.Apart slot history) ∧
    line.QuietRound last ∧ line.fleet.rootFired = false ∧ line.world.leaderless = 0 ∧
    (∀ slot < 5, ∃ member, last.fleet.member? slot = some member ∧
      Truthful 5 last.fleet last.world slot member.status) ∧
    last.fleet.process? 0 = none ∧ last.fleet.Quiet 0 ∧
    last.fleet.member? 1 = some leader ∧ leader.status.state = .leader ∧
    last.fleet.member? 2 = some follower ∧ follower.status.state = .follower ∧
    (last.fleet.process? 3).isSome ∧ 3 ∈ last.world.unwinding ∧ last.fleet.Quiet 3 ∧
    (last.fleet.process? 4).isSome ∧ 4 ∈ last.world.unreachable ∧ last.fleet.Quiet 4 := by
  obtain ⟨first, history, line, system, hopening, hhistory, hnoting, hstage, hidle, hdue, hstop,
    hroot, hleaderless, hrunning, hunwinding, hunreachable⟩ := exists_troubled_crew
  have mirrorsFirst := (Timeline.Mirrors.opening hopening).1
  obtain ⟨notes, mirrors⟩ := Timeline.Mirrors.course mirrorsFirst hhistory
  have happart : ∀ slot, Timeline.Apart slot history := fun slot =>
    Timeline.apart_of_complete mirrorsFirst hhistory fun moment hmem system begun hstage hphase =>
      absurd ⟨system, begun, hstage, hphase⟩ (hnoting moment hmem slot)
  obtain ⟨last, hround⟩ := Timeline.exists_quietRound mirrors hstage hidle hdue hstop
  have hline : line.fleet.rootFired = false := by simpa [Timeline.fleet, hstage] using hroot
  have hshown : ∀ slot < 5, ∃ member, last.fleet.member? slot = some member ∧
      Truthful 5 last.fleet last.world slot member.status := fun slot hslot =>
    quiet_round_shows_ground_truth hopening hhistory (happart slot) hround hline hleaderless hslot
  obtain ⟨-, -, after, -, -, -, -, hafter, hworld, -⟩ :=
    hround.exists_round ⟨notes, mirrors⟩ hleaderless
  obtain ⟨_, mirrorsLast⟩ := hround.mirrors ⟨notes, mirrors⟩
  have hoccupied := mirrorsLast.occupied hafter
  have hrunningLast : last.world.running.Perm [1, 2, 3, 4] := hworld ▸ hrunning
  have hholds : ∀ slot, (last.fleet.process? slot).isSome ↔ slot ∈ [1, 2, 3, 4] := fun slot =>
    (hoccupied slot).symm.trans hrunningLast.mem_iff
  have hsound : last.world.unwinding = [3] := hworld ▸ hunwinding
  have haway : last.world.unreachable = [4] := hworld ▸ hunreachable
  have hcount : last.fleet.occupied.length = 4 :=
    (length_occupied hoccupied mirrorsLast.nodup).trans hrunningLast.length_eq
  have hmajority : 5 < last.fleet.occupied.length * 2 := by
    rw [hcount]
    decide
  have hlowest : ∀ other ∈ last.fleet.occupied, 1 ≤ other := by
    simp [Fleet.mem_occupied, hholds]
  have hempty : last.fleet.process? 0 = none := by
    rw [← Option.not_isSome_iff_eq_none, hholds]
    decide
  have hquiet : ∀ slot < 5, (last.fleet.process? slot = none ∨ slot ∈ last.world.unreachable ∨
      slot ∈ last.world.unwinding) → last.fleet.Quiet slot := by
    intro slot hslot hdown member hmember
    obtain ⟨found, hfound, shown⟩ := hshown slot hslot
    obtain rfl := Option.some.inj (hfound.symm.trans hmember)
    exact shown.down hdown
  have hfirst : (last.fleet.process? 1).isSome := (hholds 1).mpr (by decide)
  have hsecond : (last.fleet.process? 2).isSome := (hholds 2).mpr (by decide)
  obtain ⟨leader, hleader, shownLeader⟩ := hshown 1 (by decide)
  obtain ⟨follower, hfollower, shownFollower⟩ := hshown 2 (by decide)
  have hleading : leader.status.state = .leader :=
    shownLeader.leading hfirst (by simp [haway]) (by simp [hsound]) hmajority hlowest
  have hfollowing : follower.status.state = .follower :=
    shownFollower.following hsecond (by simp [haway]) (by simp [hsound])
      (Fleet.mem_occupied.mpr hfirst) (by decide)
  refine ⟨first, history, line, last, leader, follower, hopening, hhistory, happart, hround, hline,
    hleaderless, hshown, hempty, hquiet 0 (by decide) (.inl hempty), hleader, hleading, hfollower,
    hfollowing, (hholds 3).mpr (by decide), ?_, ?_, (hholds 4).mpr (by decide), ?_, ?_⟩
  · simp [hsound]
  · exact hquiet 3 (by decide) (by simp [hsound])
  · simp [haway]
  · exact hquiet 4 (by decide) (by simp [haway])

end Simulation

end FleetControl
