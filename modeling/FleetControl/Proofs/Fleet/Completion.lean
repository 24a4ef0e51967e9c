import FleetControl.Proofs.Fleet.Layout
import FleetControl.Proofs.Fleet.Start

/-!
# A start can complete

Nothing in a start stands in its own way: where the engine launches what it is asked for, every
process becomes ready and every member names a leader, the start completes, however many members
there are.
-/

namespace FleetControl

open FleetControl.Number FleetControl.Text

namespace Bootstrap

theorem getElem?_frontier {α : Type} (a b : α) (done left : Nat) :
    (List.replicate done a ++ List.replicate (left + 1) b)[done]? = some b := by
  rw [List.getElem?_append_right (by simp)]
  simp

/-- The frontier between two values moves on by one. -/
theorem set_frontier {α : Type} (a b : α) (done left : Nat) :
    (List.replicate done a ++ List.replicate (left + 1) b).set done a =
      List.replicate (done + 1) a ++ List.replicate left b := by
  rw [List.set_append_right _ _ (by simp), List.length_replicate, Nat.sub_self,
    List.replicate_succ, List.set_cons_zero, List.replicate_succ', List.append_assoc]
  rfl

/-- There is a course of a start from one state to another. -/
def Leads (start last : Bootstrap) : Prop := ∃ moments, Course step? start moments last

namespace Leads

theorem trans {start middle last : Bootstrap} (hleft : Leads start middle)
    (hright : Leads middle last) : Leads start last := by
  obtain ⟨early, hearly⟩ := hleft
  obtain ⟨late, hlate⟩ := hright
  exact ⟨early ++ late, hearly.append hlate⟩

theorem of_step? {start : Bootstrap} {event : StartEvent} {next : Bootstrap × List Command}
    (hstep : start.step? event = some next) : Leads start next.1 :=
  ⟨_, .single hstep⟩

end Leads

variable {start : Bootstrap}

/-- The engine launches the next member with some configuration. -/
theorem step?_launched {config : MemberConfig} {todo : List MemberConfig}
    (hphase : start.phase = .launching (config :: todo)) (canonical : MemberConfig) :
    start.step? (.launched (.ok canonical)) =
      some (launchNext
        { start with
          fleet := { start.fleet with
            members := start.fleet.members ++
              [Member.new start.handles.length canonical start.fleet.clock]
            launches := start.fleet.launches + 1 }
          handles := start.handles ++ [start.fleet.launches] } todo) := by
  simp only [step?, onLaunched, hphase]

/-- The engine gives out the very configuration that it was asked for. -/
def Echoes (moment : Moment Bootstrap StartEvent) : Prop :=
  ∃ config todo, moment.before.phase = .launching (config :: todo) ∧
    moment.event = .launched (.ok config)

/-- The engine launches every member that is left. -/
theorem exists_awaiting (todo : List MemberConfig) {config : MemberConfig}
    (hphase : start.phase = .launching (config :: todo)) :
    ∃ moments last, Course step? start moments last ∧ (∀ moment ∈ moments, Echoes moment) ∧
      last.phase = .awaiting (List.replicate last.handles.length none) ∧
      last.handles.length = start.handles.length + todo.length + 1 ∧
      last.fleet.rootFired = start.fleet.rootFired := by
  have hstep := step?_launched hphase config
  induction todo generalizing start config with
  | nil =>
      refine ⟨_, _, .single hstep, ?_, ?_, ?_, rfl⟩
      · simpa using ⟨config, [], hphase, rfl⟩
      · simp [List.map_const', List.replicate_succ']
      · simp
  | cons next todo ih =>
      have hnext : (launchNext
          { start with
            fleet := { start.fleet with
              members := start.fleet.members ++
                [Member.new start.handles.length config start.fleet.clock]
              launches := start.fleet.launches + 1 }
            handles := start.handles ++ [start.fleet.launches] } (next :: todo)).1.phase =
          .launching (next :: todo) := rfl
      obtain ⟨moments, last, hcourse, hechoes, hlast, hlength, hroot⟩ :=
        ih hnext (step?_launched hnext next)
      refine ⟨_, last, (Course.single hstep).append hcourse, ?_, hlast, ?_, hroot⟩
      · simpa using ⟨⟨config, _, hphase, rfl⟩, hechoes⟩
      · rw [hlength]
        simp [launchNext]
        omega

/-- The wait goes on while a process is not known yet. -/
theorem settleAwaiting_of_mem {outcomes : List (Option (Except Error Unit))}
    (hmem : none ∈ outcomes) (start : Bootstrap) :
    start.settleAwaiting outcomes = ({ start with phase := .awaiting outcomes }, []) := by
  have hall : ¬ outcomes.all Option.isSome = true :=
    fun hall => Bool.false_ne_true (List.all_eq_true.mp hall none hmem)
  rw [settleAwaiting, if_neg hall]

/-- The wait is over once all processes are ready. -/
theorem settleAwaiting_replicate (count : Nat) (start : Bootstrap) :
    start.settleAwaiting (List.replicate count (some (.ok ()))) =
      ({ start with phase := .settling (start.fleet.clock.instant + start.plan.backoff) }, []) := by
  have hfirst : (((List.replicate count (some (.ok ()))).filterMap id).find?
      fun outcome : Except Error Unit => !outcome.isOk) = none := by
    simp [Except.isOk, Except.toBool]
  rw [settleAwaiting, if_pos (by simp), hfirst]

/-- One more process becomes ready, and others are still awaited. -/
theorem step?_ready_next {done left : Nat}
    (hphase : start.phase =
      .awaiting (List.replicate done (some (.ok ())) ++ List.replicate (left + 1 + 1) none)) :
    start.step? (.ready done (.ok ())) =
      some ({ start with
        fleet := markReady start.fleet done (.ok ())
        phase := .awaiting (List.replicate (done + 1) (some (.ok ())) ++
          List.replicate (left + 1) none) }, []) := by
  have hmem : none ∈ List.replicate (done + 1) (some (.ok ())) ++
      List.replicate (left + 1) (none : Option (Except Error Unit)) :=
    List.mem_append_right _ List.mem_cons_self
  simp only [step?, onReady, hphase, getElem?_frontier, set_frontier, settleAwaiting_of_mem hmem]

/-- The last process becomes ready. -/
theorem step?_ready_last {done : Nat}
    (hphase : start.phase =
      .awaiting (List.replicate done (some (.ok ())) ++ List.replicate (0 + 1) none)) :
    start.step? (.ready done (.ok ())) =
      some ({ start with
        fleet := markReady start.fleet done (.ok ())
        phase := .settling (start.fleet.clock.instant + start.plan.backoff) }, []) := by
  simp only [step?, onReady, hphase, getElem?_frontier, set_frontier, List.replicate_zero,
    List.append_nil, settleAwaiting_replicate]
  rfl

/-- The processes of all slots from `done` on become ready. -/
theorem leads_settling (left : Nat) (start : Bootstrap) {done : Nat}
    (hphase : start.phase =
      .awaiting (List.replicate done (some (.ok ())) ++ List.replicate (left + 1) none)) :
    ∃ last due, Leads start last ∧ last.phase = .settling due ∧ last.handles = start.handles ∧
      last.fleet.rootFired = start.fleet.rootFired := by
  induction left generalizing start done with
  | zero => exact ⟨_, _, .of_step? (step?_ready_last hphase), rfl, rfl, rfl⟩
  | succ left ih =>
      obtain ⟨last, due, hleads, hlast, hhandles, hroot⟩ := ih
        { start with
          fleet := markReady start.fleet done (.ok ())
          phase := .awaiting (List.replicate (done + 1) (some (.ok ())) ++
            List.replicate (left + 1) none) } rfl
      exact ⟨last, due, (Leads.of_step? (step?_ready_next hphase)).trans hleads, hlast, hhandles,
        hroot⟩

/-- A search before its first attempt. -/
def newSearch : Search := {}

/-- A search that waits for the answer to its first question. -/
def askingSearch : Search := { attempts := 1, phase := .asking }

/-- A search whose first question was answered with a leader. -/
def foundSearch : Search := { attempts := 1, phase := .found }

/-- The searches of a fleet in which the first members have named a leader. -/
def searchesAt (done left : Nat) : List Search :=
  List.replicate done foundSearch ++ List.replicate left newSearch

/-- The report of a member that leads. -/
def leaderReport : StatusReport := { memberId := 1, leaderId := 1, dbSize := 0 }

/-- The search goes on while a member has not named a leader. -/
theorem settleSearching_of_mem {searches : List Search} {search : Search}
    (hmem : search ∈ searches) (hopen : search.outcome? = none) (start : Bootstrap) :
    start.settleSearching searches = ({ start with phase := .searching searches }, []) := by
  have hall : ¬ (searches.map Search.outcome?).all Option.isSome = true := by
    intro hall
    have := List.all_eq_true.mp hall _ (List.mem_map_of_mem hmem)
    simp [hopen] at this
  unfold settleSearching
  dsimp only
  rw [if_neg hall]

/-- The start is over once all members have named a leader. -/
theorem settleSearching_replicate (count : Nat) (start : Bootstrap) :
    start.settleSearching (List.replicate count foundSearch) =
      ({ start with
        fleet := { start.fleet with slots := start.handles.map some }
        phase := .started }, []) := by
  have houtcomes : (List.replicate count foundSearch).map Search.outcome? =
      List.replicate count (some (.ok ())) := by
    simp [foundSearch, Search.outcome?]
  have hfirst : (((List.replicate count (some (.ok ()))).filterMap id).find?
      fun outcome : Except Error Unit => !outcome.isOk) = none := by
    simp [Except.isOk, Except.toBool]
  unfold settleSearching
  dsimp only
  rw [houtcomes, if_pos (by simp), hfirst]

theorem getElem?_asking (done left : Nat) :
    ((searchesAt done (left + 1)).set done askingSearch)[done]? = some askingSearch :=
  List.getElem?_set_self (by simp [searchesAt])

/-- A member is asked for the first time. -/
theorem step?_attempt {done left : Nat} {member : Member}
    (hphase : start.phase = .searching (searchesAt done (left + 1)))
    (hroot : start.fleet.rootFired = false) (hmember : start.fleet.member? done = some member) :
    start.step? (.attempt done) =
      some ({ start with phase := .searching ((searchesAt done (left + 1)).set done askingSearch) },
        [.query done member.config]) := by
  have hnew : (searchesAt done (left + 1))[done]? = some newSearch := getElem?_frontier ..
  have hask : newSearch.attempt start.fleet.rootFired = .ok askingSearch := by
    rw [hroot]
    rfl
  simp only [step?, onAttempt, hphase, hnew, hmember, Option.bind_eq_bind, Option.bind_some, hask]
  rw [if_neg (by simp [newSearch]),
    settleSearching_of_mem (List.mem_of_getElem? (getElem?_asking done left)) rfl]
  rfl

/-- The member that was asked names a leader. -/
theorem step?_answered {done left : Nat} {member : Member} {report : StatusReport}
    (hphase : start.phase = .searching ((searchesAt done (left + 1)).set done askingSearch))
    (hmember : start.fleet.member? done = some member) (hleader : report.hasLeader = true) :
    start.step? (.answered done (.reply (.ok report))) =
      some (settleSearching
        { start with
          fleet := start.fleet.changeMember done fun _ =>
            member.updateStatus (·.discover report) }
        (searchesAt (done + 1) left)) := by
  have hset : ((searchesAt done (left + 1)).set done askingSearch).set done foundSearch =
      searchesAt (done + 1) left :=
    (List.set_set ..).trans (set_frontier ..)
  have hasking := getElem?_asking done left
  simp only [step?, onAnswered, hphase, hasking, hmember, Option.bind_eq_bind, Option.bind_some,
    Search.take, hleader, if_true]
  rw [if_neg (by simp [askingSearch]), ← hset]
  rfl

/-- A member is asked, and names a leader. -/
theorem leads_named {done left : Nat}
    (hphase : start.phase = .searching (searchesAt done (left + 1)))
    (hroot : start.fleet.rootFired = false) (hslot : done < start.fleet.members.length) :
    ∃ fleet : Fleet, fleet.rootFired = false ∧
      fleet.members.length = start.fleet.members.length ∧
      Leads start (settleSearching { start with fleet } (searchesAt (done + 1) left)).1 := by
  obtain ⟨member, hmember⟩ := Fleet.exists_member? hslot
  have hattempt := step?_attempt hphase hroot hmember
  have hanswered : ({ start with
      phase := .searching ((searchesAt done (left + 1)).set done askingSearch) } : Bootstrap).step?
      (.answered done (.reply (.ok leaderReport))) = _ :=
    step?_answered rfl hmember rfl
  exact ⟨start.fleet.changeMember done fun _ => member.updateStatus (·.discover leaderReport),
    hroot, start.fleet.size_changeMember .., (Leads.of_step? hattempt).trans
      (Leads.of_step? hanswered)⟩

/-- The searches of all slots from `done` on find a leader. -/
theorem leads_started (left : Nat) (start : Bootstrap) {done : Nat}
    (hphase : start.phase = .searching (searchesAt done (left + 1)))
    (hroot : start.fleet.rootFired = false)
    (hsize : start.fleet.members.length = done + left + 1) :
    ∃ last, Leads start last ∧ last.phase = .started ∧ last.handles = start.handles ∧
      last.fleet.rootFired = false := by
  induction left generalizing start done with
  | zero =>
      obtain ⟨fleet, hstill, -, hnamed⟩ := leads_named hphase hroot (by omega)
      rw [searchesAt, List.replicate_zero, List.append_nil, settleSearching_replicate] at hnamed
      exact ⟨_, hnamed, rfl, rfl, hstill⟩
  | succ left ih =>
      obtain ⟨fleet, hstill, hsame, hnamed⟩ := leads_named hphase hroot (by omega)
      have hmem : newSearch ∈ searchesAt (done + 1) (left + 1) :=
        List.mem_append_right _ List.mem_cons_self
      rw [settleSearching_of_mem hmem rfl] at hnamed
      obtain ⟨last, hleads, hlast⟩ :=
        ih { start with fleet, phase := .searching (searchesAt (done + 1) (left + 1)) } rfl hstill
          (by simp only [hsame, hsize]; omega)
      exact ⟨last, hnamed.trans hleads, hlast⟩

/-- The clock can come to any instant, unless it is past it. -/
theorem step?_time (start : Bootstrap) (due : Nanos) :
    start.step? (.outside (.time ⟨max due start.fleet.clock.instant, 0⟩)) =
      some ({ start with
        fleet := { start.fleet with clock := ⟨max due start.fleet.clock.instant, 0⟩ } }, []) := by
  have hlater : start.fleet.clock.instant ≤ max due start.fleet.clock.instant :=
    Nat.le_max_right ..
  rw [step?, Fleet.outside?, if_pos hlater]
  rfl

/-- The pause before the search is over. -/
theorem step?_settled {due : Nanos} (hphase : start.phase = .settling due)
    (hdue : due ≤ start.fleet.clock.instant) :
    start.step? .settled =
      some ({ start with phase := .searching (searchesAt 0 start.handles.length) }, []) := by
  simp [step?, hphase, Nat.not_lt.mpr hdue, searchesAt, List.map_const', newSearch]

/-- The pause before the search ends once the clock has come to it. -/
theorem leads_searching {due : Nanos} (hphase : start.phase = .settling due) :
    ∃ last, Leads start last ∧ last.phase = .searching (searchesAt 0 last.handles.length) ∧
      last.handles = start.handles ∧ last.fleet.rootFired = start.fleet.rootFired := by
  have hsettled : ({ start with
      fleet := { start.fleet with
        clock := ⟨max due start.fleet.clock.instant, 0⟩ } } : Bootstrap).step? .settled = _ :=
    step?_settled hphase (Nat.le_max_left ..)
  exact ⟨_, (Leads.of_step? (start.step?_time due)).trans (Leads.of_step? hsettled), rfl, rfl, rfl⟩

/-- A start that has launched its members can come to look for a leader. -/
theorem awaiting_can_search {interval : Nanos} {notes : List EngineNote} {left : Nat}
    (kept : Kept interval notes start)
    (hphase : start.phase = .awaiting (List.replicate (left + 1) none))
    (hlength : start.handles.length = left + 1) :
    ∃ last, Leads start last ∧ last.phase = .searching (searchesAt 0 (left + 1)) ∧
      last.handles = start.handles ∧ last.fleet.rootFired = start.fleet.rootFired ∧
      last.fleet.members.length = left + 1 := by
  obtain ⟨ready, due, hready, hsettling, hreadyHandles, hreadyRoot⟩ :=
    leads_settling left start (hphase.trans (by rw [List.replicate_zero, List.nil_append]))
  obtain ⟨last, hlast, hsearching, hlastHandles, hlastRoot⟩ := leads_searching hsettling
  have hsame : last.handles = start.handles := hlastHandles.trans hreadyHandles
  rw [hsame, hlength] at hsearching
  obtain ⟨moments, hcourse⟩ := hready.trans hlast
  have hsize := (kept.course hcourse).fledgling.size_eq
  exact ⟨last, ⟨moments, hcourse⟩, hsearching, hsame, hlastRoot.trans hreadyRoot,
    hsize.trans (by rw [hsame, hlength])⟩

/-- A start that has launched its members can complete. -/
theorem awaiting_can_complete {interval : Nanos} {notes : List EngineNote} {left : Nat}
    (kept : Kept interval notes start)
    (hphase : start.phase = .awaiting (List.replicate (left + 1) none))
    (hlength : start.handles.length = left + 1) (hroot : start.fleet.rootFired = false) :
    ∃ last, Leads start last ∧ last.phase = .started ∧ last.handles = start.handles ∧
      last.fleet.rootFired = false := by
  obtain ⟨asked, hasked, hsearching, hsame, haskedRoot, hsize⟩ :=
    awaiting_can_search kept hphase hlength
  obtain ⟨last, hstarted, hlast, hlastHandles, hlastRoot⟩ := leads_started left asked hsearching
    (haskedRoot.trans hroot) (by rw [hsize, Nat.zero_add])
  exact ⟨last, hasked.trans hstarted, hlast, hlastHandles.trans hsame, hlastRoot⟩

/-- A start that is launching its members can come to look for a leader, and then all of them were
launched. -/
theorem can_search {interval : Nanos} {notes : List EngineNote} {config : MemberConfig}
    {todo : List MemberConfig} (kept : Kept interval notes start)
    (hphase : start.phase = .launching (config :: todo)) (hhandles : start.handles = []) :
    ∃ last, Leads start last ∧ last.phase = .searching (searchesAt 0 (todo.length + 1)) ∧
      last.handles.length = todo.length + 1 ∧ last.fleet.rootFired = start.fleet.rootFired ∧
      last.fleet.members.length = todo.length + 1 := by
  obtain ⟨moments, launched, hcourse, -, hawaiting, hlength, hlaunchedRoot⟩ :=
    exists_awaiting todo hphase
  rw [hhandles, List.length_nil, Nat.zero_add] at hlength
  rw [hlength] at hawaiting
  obtain ⟨last, hlast, hsearching, hsame, hlastRoot, hsize⟩ :=
    awaiting_can_search (kept.course hcourse) hawaiting hlength
  exact ⟨last, Leads.trans ⟨moments, hcourse⟩ hlast, hsearching, hsame ▸ hlength,
    hlastRoot.trans hlaunchedRoot, hsize⟩

/-- A start that is launching its members can complete, and then all of them were launched. -/
theorem can_complete {interval : Nanos} {notes : List EngineNote} {config : MemberConfig}
    {todo : List MemberConfig} (kept : Kept interval notes start)
    (hphase : start.phase = .launching (config :: todo)) (hroot : start.fleet.rootFired = false) :
    ∃ last, Leads start last ∧ last.phase = .started ∧
      last.handles.length = start.handles.length + todo.length + 1 ∧
      last.fleet.rootFired = false := by
  obtain ⟨moments, launched, hcourse, -, hawaiting, hlength, hlaunchedRoot⟩ :=
    exists_awaiting todo hphase
  rw [hlength] at hawaiting
  obtain ⟨last, hcompleted, hstarted, hlast, hlastRoot⟩ := awaiting_can_complete
    (kept.course hcourse) hawaiting hlength (hlaunchedRoot.trans hroot)
  exact ⟨last, Leads.trans ⟨moments, hcourse⟩ hcompleted, hstarted, hlast ▸ hlength, hlastRoot⟩

/-- Settings that are accepted, a layout and a directory are all it takes to begin. -/
theorem begin_eq {settings : FleetSettings} {token : String} {files after : Files}
    {configs : List MemberConfig} (hvalid : settings.validate = .ok ())
    (hconfigs : Layout.memberConfigs settings token = .ok configs)
    (hfiles : files.prepareDirectory settings.fleet.rootDir = (after, .ok ())) (clock : Clock)
    (rootFired : Bool) :
    ∃ start : Bootstrap, begin settings token files clock rootFired =
        (after, .ok (start.launchNext configs)) ∧
      start.handles = [] ∧ start.fleet.rootFired = rootFired ∧
      start.plan.backoff = settings.monitor.leaderDiscoveryBackoff := by
  unfold begin
  rw [hvalid, hconfigs]
  dsimp only
  rw [hfiles]
  exact ⟨_, rfl, rfl, rfl, rfl⟩

/-- A start that has begun can complete, whatever the number of members, unless the root signal
fired before. -/
theorem begin_can_complete {settings : FleetSettings} {token : String} {files after : Files}
    {config : MemberConfig} {todo : List MemberConfig} (hvalid : settings.validate = .ok ())
    (hconfigs : Layout.memberConfigs settings token = .ok (config :: todo))
    (hfiles : files.prepareDirectory settings.fleet.rootDir = (after, .ok ())) (clock : Clock) :
    ∃ first opening moments start,
      begin settings token files clock false = (after, .ok (first, opening)) ∧
      Course step? first moments start ∧ start.phase = .started ∧
      start.handles.length = todo.length + 1 ∧ start.fleet.rootFired = false := by
  obtain ⟨blank, hbegin, hhandles, hroot, -⟩ := begin_eq hvalid hconfigs hfiles clock false
  obtain ⟨start, ⟨moments, hcourse⟩, hstarted, hlength, hstill⟩ :=
    can_complete (Kept.begin hbegin) rfl hroot
  refine ⟨_, _, moments, start, hbegin, hcourse, hstarted, ?_, hstill⟩
  simpa [hhandles] using hlength

end Bootstrap

/-- Settings of a fleet of this size. -/
def crewSettings (size : UInt64) : FleetSettings := { fleet := { size, rootDir := "fleet" } }

/-- Settings of the smallest fleet. -/
def soloSettings : FleetSettings := { fleet := { size := 1, rootDir := "fleet" } }

/-- Settings of the smallest fleet, with another directory. -/
def soloSettingsAt (rootDir : String) : FleetSettings :=
  { soloSettings with fleet := { soloSettings.fleet with rootDir } }

theorem validate_soloAt {rootDir : String} (hroot : rootDir.isEmpty = false) :
    (soloSettingsAt rootDir).validate = .ok () := by
  have hsize : soloSettings.fleet.size ≠ 0 := by decide
  have hport : soloSettings.fleet.rootPort ≠ 0 := by decide
  have hlast : (soloSettingsAt rootDir).fleet.lastPeerPort = .ok 2380 := rfl
  have hhost : isBlankText soloSettings.fleet.host = false := rfl
  have hfleet : (soloSettingsAt rootDir).fleet.validate = .ok () := by
    rw [FleetSection.validate, hlast]
    simp [soloSettingsAt, hsize, hport, hroot, hhost]
  rw [FleetSettings.validate, hfleet]
  rfl

theorem validate_solo : soloSettings.validate = .ok () := validate_soloAt rfl

theorem memberConfigs_soloAt {rootDir : String} (hroot : rootDir.isEmpty = false) (token : String) :
    ∃ config, Layout.memberConfigs (soloSettingsAt rootDir) token = .ok [config] := by
  obtain ⟨configs, hconfigs⟩ := Layout.exists_memberConfigs (validate_soloAt hroot) token
  have hlength : configs.length = 1 := Layout.length_memberConfigs hconfigs
  obtain ⟨config, rfl⟩ := List.length_eq_one_iff.mp hlength
  exact ⟨config, hconfigs⟩

theorem memberConfigs_solo (token : String) :
    ∃ config, Layout.memberConfigs soloSettings token = .ok [config] :=
  memberConfigs_soloAt rfl token

theorem prepareDirectory_solo : ({} : Files).prepareDirectory soloSettings.fleet.rootDir =
    ({ entries := [(["fleet"], .directory)] }, .ok ()) := by
  have hsize : "fleet".utf8ByteSize = 5 := rfl
  have hparts : PathParts.ofPath "fleet" = .ok ⟨["fleet"], false⟩ := by
    simp [PathParts.ofPath, Path.splitSlashes, hsize]
  have hwalk : ∀ follow, ({} : Files).walk follow Files.maxLinks [] ["fleet"] = .ok ["fleet"] := by
    intro follow
    simp [Files.walk, Files.entry?, Files.maxNameBytes, Keyed.find?, hsize]
  have hmissing : Files.entry? {} ["fleet"] = none := rfl
  have hstat : ({} : Files).stat false "fleet" = .error .notFound := by
    simp only [Files.stat, Files.locate, hparts, hwalk, hmissing, bind, Except.bind]
    rfl
  have hmake : ({} : Files).makeDirectory "fleet" =
      .ok { entries := [(["fleet"], .directory)] } := by
    simp only [Files.makeDirectory, hparts, hwalk, hmissing, bind, Except.bind]
    rfl
  show ({} : Files).prepareDirectory "fleet" = _
  simp [Files.prepareDirectory, Files.removeDirectory, Files.removeTree, hstat, Files.makeAll,
    Files.makeDirectories, hmake]

/-- The smallest fleet can be started in whatever directory, and then has one member and one
process. -/
theorem started_soloAt {rootDir : String} {files after : Files} (hroot : rootDir.isEmpty = false)
    (hfiles : files.prepareDirectory rootDir = (after, .ok ())) :
    ∃ fleet member handle, Started (soloSettingsAt rootDir) fleet ∧ fleet.members = [member] ∧
      fleet.slots = [some handle] := by
  obtain ⟨config, hconfigs⟩ := memberConfigs_soloAt hroot "solo"
  obtain ⟨first, opening, moments, start, hbegin, hcourse, hphase, hlength, -⟩ :=
    Bootstrap.begin_can_complete (validate_soloAt hroot) hconfigs hfiles {}
  have kept := (Bootstrap.Kept.begin hbegin).course hcourse
  obtain ⟨-, hslots⟩ : StartPhase.Knows start.fleet start.handles .started := hphase ▸ kept.knows
  obtain ⟨handle, hhandle⟩ := List.length_eq_one_iff.mp hlength
  obtain ⟨member, hmember⟩ := List.length_eq_one_iff.mp (kept.fledgling.size_eq.trans hlength)
  exact ⟨start.fleet, member, handle, ⟨_, _, _, _, _, _, _, _, start, hbegin, hcourse, hphase, rfl⟩,
    hmember, by rw [hslots, hhandle]; rfl⟩

/-- The smallest fleet can be started. -/
theorem solo_can_complete (token : String) :
    ∃ after first opening moments start,
      Bootstrap.begin soloSettings token {} {} false = (after, .ok (first, opening)) ∧
      Course Bootstrap.step? first moments start ∧ start.phase = .started ∧
      start.handles.length = 1 := by
  obtain ⟨config, hconfigs⟩ := memberConfigs_solo token
  obtain ⟨first, opening, moments, start, hbegin, hcourse, hphase, hlength, -⟩ :=
    Bootstrap.begin_can_complete validate_solo hconfigs prepareDirectory_solo {}
  exact ⟨_, first, opening, moments, start, hbegin, hcourse, hphase, hlength⟩

/-- It is then a fleet with one member. -/
theorem started_solo : ∃ fleet member, Started soloSettings fleet ∧
    fleet.member? 0 = some member := by
  obtain ⟨after, first, opening, moments, start, hbegin, hcourse, hphase, hlength⟩ :=
    solo_can_complete "solo"
  have hsize := ((Bootstrap.Kept.begin hbegin).course hcourse).fledgling.size_eq
  exact ⟨start.fleet, _, ⟨_, _, _, _, _, _, _, _, start, hbegin, hcourse, hphase, rfl⟩,
    List.getElem?_eq_getElem (by omega)⟩

/-- A fleet of any size that is accepted can be started before the root signal fires. -/
theorem started_crew {size : UInt64} {count : Nat} (hsize : count + 1 = size.toNat)
    (hvalid : (crewSettings size).validate = .ok ()) :
    ∃ fleet, Started (crewSettings size) fleet ∧ fleet.members.length = size.toNat ∧
      fleet.rootFired = false := by
  obtain ⟨configs, hconfigs⟩ := Layout.exists_memberConfigs hvalid "crew"
  have hlength : configs.length = count + 1 := (Layout.length_memberConfigs hconfigs).trans hsize.symm
  obtain ⟨config, todo, rfl⟩ := List.exists_cons_of_length_eq_add_one hlength
  obtain ⟨first, opening, moments, start, hbegin, hcourse, hphase, hhandles, hroot⟩ :=
    Bootstrap.begin_can_complete hvalid hconfigs prepareDirectory_solo {}
  refine ⟨start.fleet, ⟨_, _, _, _, _, _, _, _, start, hbegin, hcourse, hphase, rfl⟩, ?_, hroot⟩
  calc start.fleet.members.length
      = start.handles.length := ((Bootstrap.Kept.begin hbegin).course hcourse).fledgling.size_eq
    _ = todo.length + 1 := hhandles
    _ = size.toNat := hlength.trans hsize

end FleetControl
