import FleetControl.Proofs.Fleet.Completion
import FleetControl.Proofs.Simulation.Rounds

/-!
# A simulated fleet can be started

The start of a simulated fleet goes through whatever the number of its members, as long as nothing
was done to them: every promise is kept as soon as it is made, and when all members run the lowest
one leads.
-/

namespace FleetControl.Simulation

namespace SimulatedFleet

variable {sim : SimulatedFleet} {slot : Nat}

/-- Nothing was done to the members: they start, become ready and answer at once. -/
structure Hale (sim : SimulatedFleet) : Prop where
  opDelay : sim.opDelay = 0
  unreachable : sim.unreachable = []
  unwinding : sim.unwinding = []
  failing : sim.failing = []
  hanging : sim.hanging = []
  leaderless : sim.leaderless = 0

namespace Hale

theorem launch (hale : sim.Hale) (slot : Nat) (config : MemberConfig) :
    (sim.launch slot config).2 = .ok config ∧ (sim.launch slot config).1.Hale ∧
      (sim.launch slot config).1.running = sim.running ∧
      (sim.launch slot config).1.size = sim.size := by
  rw [SimulatedFleet.launch, if_neg (by simp [hale.failing])]
  exact ⟨rfl, ⟨hale.opDelay, hale.unreachable, hale.unwinding, hale.failing, hale.hanging,
    hale.leaderless⟩, rfl, rfl⟩

theorem readied (hale : sim.Hale) (slot : Nat) : (sim.readied slot).Hale :=
  ⟨hale.opDelay, hale.unreachable, hale.unwinding, hale.failing, hale.hanging, hale.leaderless⟩

theorem ready (hale : sim.Hale) (slot : Nat) : sim.ready slot = some 0 := by
  rw [SimulatedFleet.ready, if_neg (by simp [hale.hanging]), hale.opDelay]

end Hale

/-- The members of the lowest slots run. -/
theorem running_readied {done : Nat} (hrunning : sim.running.Perm (List.range done)) :
    (sim.readied done).running.Perm (List.range (done + 1)) := by
  have hnew : done ∉ sim.running := by simp [hrunning.mem_iff]
  have hinsert : (sim.readied done).running = done :: sim.running := List.insert_of_not_mem hnew
  rw [hinsert, List.range_succ]
  exact (hrunning.cons done).trans (List.perm_append_singleton done _).symm

/-- When all members run there is a leader. -/
theorem hasLeader_report (hrunning : sim.running.Perm (List.range sim.size)) (hsize : 0 < sim.size)
    (slot : Nat) : (sim.report slot).status.hasLeader = true := by
  have hlength : sim.running.length = sim.size := hrunning.length_eq.trans List.length_range
  obtain ⟨leader, hleader⟩ : ∃ leader, sim.leader? = some leader := by
    rw [leader?, elected, if_pos (by omega)]
    exact Option.isSome_iff_exists.mp (by
      rw [List.isSome_min?_iff]
      exact List.ne_nil_of_length_pos (by omega))
  simp [report, hleader, StatusReport.hasLeader, memberIdOf]

end SimulatedFleet

namespace Timeline

variable {line : Timeline SimulatedFleet} {world : SimulatedFleet} {start next : Bootstrap}
  {pending rest : List (Pending SimulatedFleet)} {commands : List Command}

/-- The line while its fleet is started, with these promises. -/
def staging (line : Timeline SimulatedFleet) (world : SimulatedFleet) (start : Bootstrap)
    (pending : List (Pending SimulatedFleet)) : Timeline SimulatedFleet :=
  { line with world, stage := .starting start, pending }

/-- Cues lead from one line to another while the fleet is started. -/
def Stages (first last : Timeline SimulatedFleet) : Prop :=
  ∃ moments, Course play? first moments last ∧
    ∀ moment ∈ moments, ∃ start, moment.before.stage = .starting start

namespace Stages

theorem trans {first middle last : Timeline SimulatedFleet} (hleft : Stages first middle)
    (hright : Stages middle last) : Stages first last := by
  obtain ⟨early, hearly, hstarting⟩ := hleft
  obtain ⟨late, hlate, hstill⟩ := hright
  exact ⟨early ++ late, hearly.append hlate, List.forall_mem_append.mpr ⟨hstarting, hstill⟩⟩

theorem of_play? {cue : Cue} {last : Timeline SimulatedFleet}
    (hplay : (line.staging world start pending).play? cue = some (last, [])) :
    Stages (line.staging world start pending) last :=
  ⟨_, .single hplay, by simp [staging]⟩

end Stages

theorem onStart?_staging {event : StartEvent} {change : SimulatedFleet → SimulatedFleet}
    (hstep : start.step? event = some (next, commands)) :
    (line.staging world start pending).onStart? event change =
      some (commands.foldl obey (line.staging (change world) next pending)) := by
  simp only [onStart?, staging, hstep, Option.map_some]
  rfl

/-- The start goes on by itself. -/
theorem stages_own (line : Timeline SimulatedFleet) (world : SimulatedFleet)
    (pending : List (Pending SimulatedFleet)) {event : StartEvent} (hown : event.isOwn = true)
    (hstep : start.step? event = some (next, commands)) :
    Stages (line.staging world start pending)
      (commands.foldl obey (line.staging world next pending)) := by
  have hplay : (line.staging world start pending).play? (.start event) =
      some (commands.foldl obey (line.staging world next pending), []) := by
    rw [play?, if_pos hown, onStart?_staging hstep]
    rfl
  exact .of_play? hplay

/-- The first promise is kept. -/
theorem stages_kept {promise : Promise SimulatedFleet} {last : Timeline SimulatedFleet}
    (hkeep : (line.staging world start rest).keep promise = last) :
    Stages (line.staging world start (⟨start.fleet.clock.instant, promise⟩ :: rest)) last := by
  have hplay : (line.staging world start
      (⟨start.fleet.clock.instant, promise⟩ :: rest)).play? (.keep 0) = some (last, []) := by
    rw [← hkeep]
    simp [play?, staging, now, Timeline.fleet]
  exact .of_play? hplay

theorem stages_launched (line : Timeline SimulatedFleet) (world : SimulatedFleet)
    (rest : List (Pending SimulatedFleet)) (slot : Nat) {outcome : Except Error MemberConfig}
    (hstep : start.step? (.launched outcome) = some (next, commands)) :
    Stages (line.staging world start
        (⟨start.fleet.clock.instant, .launched slot outcome⟩ :: rest))
      (commands.foldl obey (line.staging world next rest)) := by
  refine stages_kept ?_
  rw [keep, onStart?_staging hstep]
  rfl

theorem stages_ready (haround : line.around = SimulatedFleet.surroundings)
    (world : SimulatedFleet) (rest : List (Pending SimulatedFleet)) (handle : Handle) {slot : Nat}
    {outcome : Except Error Unit}
    (hstep : start.step? (.ready slot outcome) = some (next, commands)) :
    Stages (line.staging world start
        (⟨start.fleet.clock.instant, .ready slot handle outcome⟩ :: rest))
      (commands.foldl obey (line.staging (world.readied slot) next rest)) := by
  refine stages_kept ?_
  dsimp only [keep]
  rw [onStart?_staging hstep]
  simp [staging, haround, SimulatedFleet.surroundings]

/-- A member that is asked while nothing ails the fleet reports what it knows. -/
theorem stages_answered {slot : Nat} (hale : world.Hale) (hrunning : slot ∈ world.running)
    (hstep : start.step? (.answered slot (.reply (.ok (world.report slot).status))) =
      some (next, commands)) :
    Stages (line.staging world start
        [⟨start.fleet.clock.instant, .answer slot false (SimulatedFleet.respond slot)⟩])
      (commands.foldl obey (line.staging world next [])) := by
  have hreport := SimulatedFleet.respond_snd hrunning (by simp [hale.unreachable])
    (by simp [hale.unwinding]) hale.leaderless
  have hresolve : SimulatedFleet.respond slot (line.staging world start []).world =
      (world, .reply (.ok (world.report slot))) :=
    Prod.ext (SimulatedFleet.respond_fst hale.leaderless slot) hreport
  refine stages_kept ?_
  simp only [keep, hresolve, Bool.false_eq_true, if_false, Except.map]
  rw [onStart?_staging hstep]
  rfl

/-- The promises that these processes, from a slot on, become ready at once. -/
def readies (instant : Nanos) (handles : List Handle) (done : Nat) :
    List (Pending SimulatedFleet) :=
  (handles.zipIdx done).map fun (handle, slot) => ⟨instant, .ready slot handle (.ok ())⟩

theorem foldl_awaitReady (haround : line.around = SimulatedFleet.surroundings) (hale : world.Hale)
    (handles : List Handle) (done : Nat) (pending : List (Pending SimulatedFleet)) :
    ((handles.zipIdx done).map fun (handle, slot) => Command.awaitReady slot handle).foldl obey
        (line.staging world start pending) =
      line.staging world start
        (pending ++ readies start.fleet.clock.instant handles done) := by
  induction handles generalizing done pending with
  | nil => simp [readies]
  | cons handle handles ih =>
      have hobey : (line.staging world start pending).obey (.awaitReady done handle) =
          line.staging world start
            (pending ++ [⟨start.fleet.clock.instant, .ready done handle (.ok ())⟩]) := by
        simp [obey, staging, haround, SimulatedFleet.surroundings, hale.ready, promise, now,
          Timeline.fleet]
      rw [List.zipIdx_cons, List.map_cons, List.foldl_cons, hobey, ih]
      simp [readies]

/-- A start has gone on, with the same plan and the root signal as it was. -/
structure Onward (start last : Bootstrap) : Prop where
  plan : last.plan = start.plan
  rootFired : last.fleet.rootFired = start.fleet.rootFired

theorem Onward.trans {middle last : Bootstrap} (hleft : Onward start middle)
    (hright : Onward middle last) : Onward start last :=
  ⟨hright.plan.trans hleft.plan, hright.rootFired.trans hleft.rootFired⟩

/-- A launch is answered at once. -/
theorem obey_launch_staging (haround : line.around = SimulatedFleet.surroundings)
    (hale : world.Hale) (slot : Nat) (config : MemberConfig) :
    (line.staging world start []).obey (.launch slot config) =
      line.staging (world.launch slot config).1 start
        [⟨start.fleet.clock.instant, .launched slot (.ok config)⟩] := by
  rw [obey_launch _ (by exact haround)]
  simp [staging, (hale.launch slot config).1, now, Timeline.fleet]

/-- All members are launched, and their processes are awaited. -/
theorem stages_awaiting (todo : List MemberConfig) {config : MemberConfig}
    (haround : line.around = SimulatedFleet.surroundings) (hale : world.Hale)
    (hmembers : start.fleet.members.length = start.handles.length)
    (hphase : start.phase = .launching (config :: todo)) :
    ∃ last after, Onward start last ∧ after.Hale ∧ after.running = world.running ∧
      after.size = world.size ∧
      last.phase = .awaiting (List.replicate last.handles.length none) ∧
      last.handles.length = start.handles.length + todo.length + 1 ∧
      last.fleet.members.length = last.handles.length ∧
      Stages (line.staging world start
          [⟨start.fleet.clock.instant, .launched start.handles.length (.ok config)⟩])
        (line.staging after last (readies last.fleet.clock.instant last.handles 0)) := by
  induction todo generalizing start world config with
  | nil =>
      let last : Bootstrap := { start.enlist config with
        phase := .awaiting ((start.enlist config).handles.map fun _ => none) }
      have hstep : start.step? (.launched (.ok config)) =
          some (last, last.handles.zipIdx.map fun (handle, slot) => .awaitReady slot handle) :=
        Bootstrap.step?_launched hphase config
      have hlaunched := stages_launched line world [] start.handles.length hstep
      rw [foldl_awaitReady haround hale, List.nil_append] at hlaunched
      exact ⟨last, world, ⟨rfl, rfl⟩, hale, rfl, rfl, by simp [last],
        by simp [last, Bootstrap.enlist], by simp [last, Bootstrap.enlist, hmembers], hlaunched⟩
  | cons following todo ih =>
      let next : Bootstrap :=
        { start.enlist config with phase := .launching (following :: todo) }
      have hstep : start.step? (.launched (.ok config)) =
          some (next, [.launch next.handles.length following]) :=
        Bootstrap.step?_launched hphase config
      have hlaunched := stages_launched line world [] start.handles.length hstep
      rw [List.foldl_cons, List.foldl_nil, obey_launch_staging haround hale] at hlaunched
      obtain ⟨-, haleNext, hrunningNext, hsizeNext⟩ := hale.launch next.handles.length following
      have hphaseNext : next.phase = .launching (following :: todo) := rfl
      obtain ⟨last, after, honward, haleLast, hrunning, hsize, hlast, hlength, hmembersLast,
        hstages⟩ := ih haleNext (by simp [next, Bootstrap.enlist, hmembers]) hphaseNext
      have hfirst : Onward start next := ⟨rfl, rfl⟩
      refine ⟨last, after, hfirst.trans honward, haleLast, hrunning.trans hrunningNext,
        hsize.trans hsizeNext, hlast, ?_,
        hmembersLast, hlaunched.trans hstages⟩
      rw [hlength]
      simp [next, Bootstrap.enlist]
      omega

/-- The processes from a slot on become ready, and then all members run. -/
theorem stages_settling (handles : List Handle) (handle : Handle) {done : Nat}
    (haround : line.around = SimulatedFleet.surroundings) (hale : world.Hale)
    (hrunning : world.running.Perm (List.range done))
    (hphase : start.phase = .awaiting
      (List.replicate done (some (.ok ())) ++ List.replicate (handles.length + 1) none)) :
    ∃ last after, Onward start last ∧ after.Hale ∧
      after.running.Perm (List.range (done + handles.length + 1)) ∧ after.size = world.size ∧
      last.phase = .settling (last.fleet.clock.instant + last.plan.backoff) ∧
      last.handles = start.handles ∧
      last.fleet.members.length = start.fleet.members.length ∧
      Stages (line.staging world start
          (readies start.fleet.clock.instant (handle :: handles) done))
        (line.staging after last []) := by
  induction handles generalizing start world handle done with
  | nil =>
      let last : Bootstrap := { start with
        fleet := Bootstrap.markReady start.fleet done (.ok ())
        phase := .settling (start.fleet.clock.instant + start.plan.backoff) }
      have hready := stages_ready haround world [] handle (Bootstrap.step?_ready_last hphase)
      exact ⟨last, _, ⟨rfl, rfl⟩, hale.readied done, SimulatedFleet.running_readied hrunning, rfl,
        rfl, rfl, start.fleet.size_changeMember .., hready⟩
  | cons following handles ih =>
      let next : Bootstrap := { start with
        fleet := Bootstrap.markReady start.fleet done (.ok ())
        phase := .awaiting (List.replicate (done + 1) (some (.ok ())) ++
          List.replicate (handles.length + 1) none) }
      have hready := stages_ready haround world
        (readies start.fleet.clock.instant (following :: handles) (done + 1)) handle
        (Bootstrap.step?_ready_next hphase)
      have hphaseNext : next.phase = .awaiting (List.replicate (done + 1) (some (.ok ())) ++
          List.replicate (handles.length + 1) none) := rfl
      obtain ⟨last, after, honward, haleLast, hrunningLast, hsize, hlast, hhandles, hmembers,
        hstages⟩ := ih following (hale.readied done) (SimulatedFleet.running_readied hrunning)
          hphaseNext
      have hfirst : Onward start next := ⟨rfl, rfl⟩
      refine ⟨last, after, hfirst.trans honward, haleLast, ?_, hsize, hlast, hhandles,
        hmembers.trans (start.fleet.size_changeMember ..), hready.trans hstages⟩
      rwa [List.length_cons, Nat.add_right_comm done]

/-- A member is asked, and names a leader. -/
theorem stages_named {done left : Nat} (haround : line.around = SimulatedFleet.surroundings)
    (hale : world.Hale) (hrunning : world.running.Perm (List.range world.size))
    (hslot : done < world.size) (hmembers : start.fleet.members.length = world.size)
    (hroot : start.fleet.rootFired = false)
    (hphase : start.phase = .searching (Bootstrap.searchesAt done (left + 1))) :
    ∃ told : Bootstrap, Onward start told ∧ told.fleet.members.length = world.size ∧
      ∀ next, told.settleSearching (Bootstrap.searchesAt (done + 1) left) = (next, []) →
        Stages (line.staging world start []) (line.staging world next []) := by
  obtain ⟨member, hmember⟩ := Fleet.exists_member? (hslot.trans_eq hmembers.symm)
  have hlt : done ∈ world.running := by rwa [hrunning.mem_iff, List.mem_range]
  have hleader := SimulatedFleet.hasLeader_report hrunning (Nat.zero_lt_of_lt hslot) done
  let asking : Bootstrap := { start with
    phase := .searching ((Bootstrap.searchesAt done (left + 1)).set done Bootstrap.askingSearch) }
  let told : Bootstrap := { asking with
    fleet := start.fleet.changeMember done fun _ =>
      member.updateStatus (·.discover (world.report done).status) }
  have hasked := stages_own line world [] rfl
    (Bootstrap.step?_attempt hphase hroot hmember)
  have hquery : (line.staging world asking []).obey (.query done member.config) =
      line.staging world asking
        [⟨asking.fleet.clock.instant, .answer done false (SimulatedFleet.respond done)⟩] := by
    simp [obey, obey.ask, staging, haround, SimulatedFleet.surroundings, promise, now,
      Timeline.fleet]
  rw [List.foldl_cons, List.foldl_nil, hquery] at hasked
  refine ⟨told, ⟨rfl, rfl⟩, (start.fleet.size_changeMember ..).trans hmembers,
    fun next hsettled => hasked.trans ?_⟩
  have hanswered : asking.step? (.answered done (.reply (.ok (world.report done).status))) =
      some (told.settleSearching (Bootstrap.searchesAt (done + 1) left)) :=
    Bootstrap.step?_answered rfl hmember hleader
  exact stages_answered hale hlt (hanswered.trans (congrArg some hsettled))

/-- All members from a slot on are asked, and name a leader. -/
theorem stages_started (left : Nat) {done : Nat}
    (haround : line.around = SimulatedFleet.surroundings) (hale : world.Hale)
    (hrunning : world.running.Perm (List.range world.size))
    (hphase : start.phase = .searching (Bootstrap.searchesAt done (left + 1)))
    (hsize : world.size = done + left + 1) (hmembers : start.fleet.members.length = world.size)
    (hroot : start.fleet.rootFired = false) :
    ∃ last, Onward start last ∧ last.phase = .started ∧
      Stages (line.staging world start []) (line.staging world last []) := by
  induction left generalizing start done with
  | zero =>
      obtain ⟨told, honward, -, hstages⟩ :=
        stages_named haround hale hrunning (by omega) hmembers hroot hphase
      have hall : Bootstrap.searchesAt (done + 1) 0 =
          List.replicate (done + 1) Bootstrap.foundSearch := List.append_nil _
      have hsettled := Bootstrap.settleSearching_replicate (done + 1) told
      rw [← hall] at hsettled
      refine ⟨_, ?_, ?_, hstages _ hsettled⟩
      · exact ⟨honward.plan, honward.rootFired⟩
      · rfl
  | succ left ih =>
      obtain ⟨told, honward, hmembersTold, hstages⟩ :=
        stages_named haround hale hrunning (by omega) hmembers hroot hphase
      have hmem : Bootstrap.newSearch ∈ Bootstrap.searchesAt (done + 1) (left + 1) :=
        List.mem_append_right _ List.mem_cons_self
      have hsettled := Bootstrap.settleSearching_of_mem hmem rfl told
      let next : Bootstrap :=
        { told with phase := .searching (Bootstrap.searchesAt (done + 1) (left + 1)) }
      have hphaseNext : next.phase =
          .searching (Bootstrap.searchesAt (done + 1) (left + 1)) := rfl
      obtain ⟨last, honwardLast, hlast, hrest⟩ :=
        ih hphaseNext (by omega) hmembersTold (honward.rootFired.trans hroot)
      have hnext : Onward start next := ⟨honward.plan, honward.rootFired⟩
      exact ⟨last, hnext.trans honwardLast, hlast, (hstages next hsettled).trans hrest⟩

/-- A start whose first launch is answered completes. -/
theorem stages_complete {config : MemberConfig} {todo : List MemberConfig}
    (haround : line.around = SimulatedFleet.surroundings) (hale : world.Hale)
    (hrunning : world.running = []) (hsize : world.size = todo.length + 1)
    (hphase : start.phase = .launching (config :: todo)) (hhandles : start.handles = [])
    (hmembers : start.fleet.members.length = start.handles.length)
    (hroot : start.fleet.rootFired = false) (hbackoff : start.plan.backoff = 0) :
    ∃ last after, Onward start last ∧ after.Hale ∧ after.running.Perm (List.range world.size) ∧
      last.phase = .started ∧
      Stages (line.staging world start
          [⟨start.fleet.clock.instant, .launched start.handles.length (.ok config)⟩])
        (line.staging after last []) := by
  obtain ⟨waiting, launched, onwardWaiting, haleLaunched, hrunningLaunched, hsizeLaunched,
    hwaiting, hlength, hmembersWaiting, hfirst⟩ :=
      stages_awaiting todo haround hale hmembers hphase
  rw [hhandles, List.length_nil, Nat.zero_add] at hlength
  obtain ⟨handle, handles, hpair⟩ := List.exists_cons_of_length_eq_add_one hlength
  have hcount : handles.length = todo.length := by simpa [hpair] using hlength
  rw [hpair] at hwaiting hfirst
  have hnone : launched.running.Perm (List.range 0) := by
    rw [hrunningLaunched, hrunning]
    rfl
  obtain ⟨settling, ready, onwardSettling, haleReady, hrunningReady, hsizeReady, hsettling,
    hhandlesSettling, hmembersSettling, hsecond⟩ :=
      stages_settling handles handle haround haleLaunched hnone hwaiting
  have onward := onwardWaiting.trans onwardSettling
  have hcountSettling : settling.handles.length = todo.length + 1 := by
    rw [hhandlesSettling, hlength]
  let searching : Bootstrap :=
    { settling with phase := .searching (Bootstrap.searchesAt 0 (todo.length + 1)) }
  have hsearching :
      searching.phase = .searching (Bootstrap.searchesAt 0 (todo.length + 1)) := rfl
  have hsettled : settling.step? .settled = some (searching, []) := by
    rw [Bootstrap.step?_settled hsettling (by rw [onward.plan, hbackoff]; exact Nat.le_refl _),
      hcountSettling]
  have hthird := stages_own line ready [] rfl hsettled
  have hsizeSame : ready.size = world.size := hsizeReady.trans hsizeLaunched
  have hall : ready.running.Perm (List.range ready.size) := by
    rwa [hsizeSame, hsize, ← hcount, ← Nat.zero_add handles.length]
  have hfull : searching.fleet.members.length = ready.size := by
    rw [hmembersSettling, hmembersWaiting, hlength, hsizeSame, hsize]
  obtain ⟨last, onwardLast, hlast, hfourth⟩ :=
    stages_started todo.length haround haleReady hall hsearching
      (by rw [hsizeSame, hsize, Nat.zero_add]) hfull (onward.rootFired.trans hroot)
  have onwardSearching : Onward start searching := ⟨onward.plan, onward.rootFired⟩
  exact ⟨last, ready, onwardSearching.trans onwardLast, haleReady, hsizeSame ▸ hall, hlast,
    ((hfirst.trans hsecond).trans hthird).trans hfourth⟩

end Timeline

/-- Settings of a fleet of this size in which a leader is looked for without a pause. -/
def swiftCrew (size : UInt64) : FleetSettings :=
  { crewSettings size with monitor := { leaderDiscoveryBackoffMs := 0 } }

/-- A simulated fleet of any size that is accepted can be started. -/
theorem crew_starts {size : UInt64} {count : Nat} (hsize : count + 1 = size.toNat)
    (hvalid : (swiftCrew size).validate = .ok ()) (token : String) :
    ∃ first history line fleet,
      Timeline.opening SimulatedFleet.surroundings { size := size.toNat, opDelay := 0 }
        (swiftCrew size) token {} none = .begun first ∧
      Course Timeline.play? first history line ∧
      (∀ moment ∈ history, ∃ start, moment.before.stage = .starting start) ∧
      line.stage = .running (.ofStart fleet (swiftCrew size).monitor.tickInterval) ∧
      Started (swiftCrew size) fleet ∧ line.pending = [] ∧ line.world.Hale ∧
      line.world.running.Perm (List.range size.toNat) ∧ fleet.rootFired = false := by
  obtain ⟨configs, hconfigs⟩ := Layout.exists_memberConfigs hvalid token
  have hlength : configs.length = count + 1 :=
    (Layout.length_memberConfigs hconfigs).trans hsize.symm
  obtain ⟨config, todo, rfl⟩ := List.exists_cons_of_length_eq_add_one hlength
  have hfiles : ({} : Files).prepareDirectory (swiftCrew size).fleet.rootDir = _ :=
    prepareDirectory_solo
  obtain ⟨blank, hbegin, hhandles, hroot, hbackoff⟩ :=
    Bootstrap.begin_eq hvalid hconfigs hfiles {} false
  let launching : Bootstrap := (blank.launchNext (config :: todo)).1
  let world : SimulatedFleet := { size := size.toNat, opDelay := 0 }
  let line : Timeline SimulatedFleet :=
    { around := SimulatedFleet.surroundings, world, stage := .starting launching
      tickInterval := (swiftCrew size).monitor.tickInterval }
  have hale : world.Hale := ⟨rfl, rfl, rfl, rfl, rfl, rfl⟩
  have hswift : (swiftCrew size).monitor.leaderDiscoveryBackoff = 0 := by
    simp [swiftCrew, MonitorSection.leaderDiscoveryBackoff, Nanos.ofMillis]
  have hopening : Timeline.opening SimulatedFleet.surroundings world (swiftCrew size) token {}
      none = .begun ((line.staging world launching []).obey
        (.launch launching.handles.length config)) := by
    unfold Timeline.opening
    rw [show decide ((none : Option Nanos) = some 0) = false from rfl, hbegin]
    rfl
  rw [Timeline.obey_launch_staging rfl hale] at hopening
  obtain ⟨-, haleLaunched, hrunning, hsizeLaunched⟩ :=
    hale.launch launching.handles.length config
  have haround : line.around = SimulatedFleet.surroundings := rfl
  have hphase : launching.phase = .launching (config :: todo) := rfl
  have hfull : (world.launch launching.handles.length config).1.size = todo.length + 1 :=
    (hsizeLaunched.trans hsize.symm).trans hlength.symm
  obtain ⟨last, after, onward, haleLast, hall, hstarted, history, hhistory, hstarting⟩ :=
    Timeline.stages_complete haround haleLaunched hrunning hfull hphase hhandles
      (Bootstrap.Kept.begin hbegin).fledgling.size_eq hroot (hbackoff.trans hswift)
  have hentered : (line.staging after last []).play? .enter = some ({ line with
      world := after
      stage := .running (.ofStart last.fleet (swiftCrew size).monitor.tickInterval) }, []) := by
    simp only [Timeline.play?, Timeline.enterRunning, Timeline.staging, hstarted]
    rfl
  obtain ⟨notes, mirrors⟩ :=
    Timeline.Mirrors.course (Timeline.Mirrors.opening hopening).1 hhistory
  have hfleet : Started (swiftCrew size) last.fleet := mirrors.stage.1.started hstarted
  refine ⟨_, _, _, last.fleet, hopening, .next hhistory hentered, ?_, rfl, hfleet, rfl, haleLast,
    hall, onward.rootFired.trans hroot⟩
  exact List.forall_mem_append.mpr ⟨hstarting, by simp [Timeline.staging]⟩

end FleetControl.Simulation
