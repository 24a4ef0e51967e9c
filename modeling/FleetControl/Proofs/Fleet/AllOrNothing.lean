import FleetControl.Proofs.Files.Removal
import FleetControl.Proofs.Fleet.Layout
import FleetControl.Proofs.Fleet.Unwinding
import FleetControl.Proofs.Number.Hexadecimal

/-!
# A start is all or nothing

A start either leaves a fleet of the chosen size with a running process, the configuration that the
engine gave out and a fresh snapshot in every slot, or it leaves nothing: settings that are refused
touch neither the engine nor the files, a failure after that removes the directory, and nothing
comes of a start whose root signal fires before the search for a leader. The one exception is a
start that unwinds: it leaves the processes it was handed out, and the directory.
-/

namespace FleetControl

open FleetControl.Number

/-- A snapshot shows what the last report said about the member's id and its role. -/
def MemberStatus.Introduced (status : MemberStatus) (reports : List StatusReport) : Prop :=
  ∃ report, reports.getLast? = some report ∧ IsHexadecimal status.id report.memberId ∧
    report.leaderId ≠ 0 ∧
    status.state = (if report.leaderId = report.memberId then .leader else .follower)

theorem MemberStatus.introduced_discover (status : MemberStatus) {report : StatusReport}
    (hleader : report.hasLeader = true) (earlier : List StatusReport) :
    (status.discover report).Introduced (earlier ++ [report]) := by
  refine ⟨report, List.getLast?_concat .., ?_, by simpa [StatusReport.hasLeader] using hleader, ?_⟩
  · rw [discover, if_pos hleader]
    exact isHexadecimal_hexadecimal _
  · simp [discover, hleader, setLeadership, MemberState.ofLeadership, StatusReport.isLeader]

namespace StartPhase

/-- No member was asked for its leader yet. -/
def isBeforeSearch : StartPhase → Bool
  | .launching _ => true
  | .awaiting _ => true
  | .settling _ => true
  | .searching searches => searches.all (· = {})
  | .undoing .. => false
  | .failed _ => false
  | .unwound _ => false
  | .started => false

/-- No member has named a leader or can still be heard to name one. -/
def Deaf : StartPhase → Prop
  | .searching searches =>
      ∀ search ∈ searches, search.phase = .checking ∨ search.phase = .lost .cancelled
  | .started => False
  | _ => True

theorem Deaf.of_isBeforeSearch {phase : StartPhase} (hbefore : phase.isBeforeSearch = true) :
    phase.Deaf := by
  cases phase with
  | searching searches =>
      intro search hmem
      have hnew : search = {} := by simpa using List.all_eq_true.mp hbefore search hmem
      exact .inl (hnew ▸ rfl)
  | started => exact absurd hbefore Bool.false_ne_true
  | launching | awaiting | settling | undoing | failed | unwound => trivial

end StartPhase

namespace Bootstrap

/-- The configurations that the engine gave out, in slot order. -/
def returned (moments : List (Moment Bootstrap StartEvent)) : List MemberConfig :=
  moments.filterMap fun moment =>
    match moment.event with
    | .launched (.ok config) => some config
    | _ => none

/-- The reports of a slot's member. -/
def reports (moments : List (Moment Bootstrap StartEvent)) (slot : Nat) : List StatusReport :=
  moments.filterMap fun moment =>
    match moment.event with
    | .answered other (.reply (.ok report)) => if other = slot then some report else none
    | _ => none

variable {start next first : Bootstrap} {event : StartEvent} {commands : List Command}
  {moments : List (Moment Bootstrap StartEvent)}

theorem outside?_keeps {fleet after : Fleet} {outer : Outside}
    (houtside : fleet.outside? outer = some after) :
    after.members = fleet.members ∧ after.slots = fleet.slots ∧ after.rootDir = fleet.rootDir ∧
      (fleet.rootFired = true → after.rootFired = true) := by
  cases outer with
  | time clock =>
      simp only [Fleet.outside?] at houtside
      split at houtside
      next => exact Option.some.inj houtside ▸ ⟨rfl, rfl, rfl, id⟩
      next => simp at houtside
  | fireRoot => exact Option.some.inj houtside ▸ ⟨rfl, rfl, rfl, fun _ => rfl⟩
  | touch files => exact Option.some.inj houtside ▸ ⟨rfl, rfl, rfl, id⟩

/-! ### The root signal -/

/-- Nothing will come of the start: it is on its way down, or the root signal fired and no member is
heard any more. -/
def Hopeless (start : Bootstrap) : Prop :=
  start.phase.isDown = true ∨ start.fleet.rootFired = true ∧ start.phase.Deaf

theorem Hopeless.not_started (hhopeless : Hopeless start) : start.phase ≠ .started := by
  intro hstarted
  rcases hhopeless with hdown | ⟨-, hdeaf⟩
  · rw [hstarted] at hdown
    exact Bool.false_ne_true hdown
  · rw [hstarted] at hdeaf
    exact hdeaf

theorem Hopeless.deaf (hhopeless : Hopeless start) (hup : start.phase.isDown = false) :
    start.fleet.rootFired = true ∧ start.phase.Deaf :=
  hhopeless.resolve_left (by simp [hup])

theorem Hopeless.search (hhopeless : Hopeless start) {searches : List Search}
    (hphase : start.phase = .searching searches) {search : Search} (hmem : search ∈ searches) :
    search.phase = .checking ∨ search.phase = .lost .cancelled := by
  have hdeaf := (hhopeless.deaf (by rw [hphase]; rfl)).2
  rw [hphase] at hdeaf
  exact hdeaf search hmem

theorem Stride.hopeless (stride : Stride start event commands next)
    (hhopeless : Hopeless start) : Hopeless next := by
  cases stride with
  | outside houtside =>
      rcases hhopeless with hdown | ⟨hroot, hdeaf⟩
      · exact .inl hdown
      · exact .inr ⟨(outside?_keeps houtside).2.2.2 hroot, hdeaf⟩
  | fall hdown => exact .inl hdown
  | unwind => exact .inl rfl
  | launch hphase => exact .inr ⟨(hhopeless.deaf (by rw [hphase]; rfl)).1, trivial⟩
  | muster hphase => exact .inr ⟨(hhopeless.deaf (by rw [hphase]; rfl)).1, trivial⟩
  | @know slot outcome outcomes hphase =>
      have hroot := (hhopeless.deaf (by rw [hphase]; rfl)).1
      exact .inr ⟨by cases outcome <;> exact hroot, trivial⟩
  | rally hphase => exact .inr ⟨(hhopeless.deaf (by rw [hphase]; rfl)).1, trivial⟩
  | release hphase => exact .inr ⟨(hhopeless.deaf (by rw [hphase]; rfl)).1, trivial⟩
  | seek hphase =>
      refine .inr ⟨(hhopeless.deaf (by rw [hphase]; rfl)).1, fun search hmem => ?_⟩
      obtain ⟨handle, -, rfl⟩ := List.mem_map.mp hmem
      exact .inl rfl
  | ask hphase hsearch hchecking hasked =>
      have hroot := (hhopeless.deaf (by rw [hphase]; rfl)).1
      rw [if_pos hroot] at hasked
      refine .inr ⟨hroot, fun search hmem => ?_⟩
      rcases List.mem_or_eq_of_mem_set hmem with hmem | rfl
      · exact hhopeless.search hphase hmem
      · exact .inr hasked
  -- Nobody is being asked, so no answer can come.
  | hear hphase hsearch hasking =>
      rcases hhopeless.search hphase (List.mem_of_getElem? hsearch) with hother | hother <;>
        simp [hother] at hasking
  | complete hphase hsearch hasking =>
      rcases hhopeless.search hphase (List.mem_of_getElem? hsearch) with hother | hother <;>
        simp [hother] at hasking
  | rest hphase hsearch hresting =>
      rcases hhopeless.search hphase (List.mem_of_getElem? hsearch) with hother | hother <;>
        simp [hother] at hresting

/-- A start whose root signal fires before the search for a leader does not complete. -/
theorem not_started_of_rootFired (hcourse : Course step? first moments start)
    {moment : Moment Bootstrap StartEvent} (hmem : moment ∈ moments)
    (hroot : moment.before.fleet.rootFired = true)
    (hbefore : moment.before.phase.isBeforeSearch = true) : start.phase ≠ .started := by
  obtain ⟨early, late, -, -, hstep, hlate⟩ := hcourse.cut hmem
  have hnext := (stride_of_step? hstep).hopeless (.inr ⟨hroot, .of_isBeforeSearch hbefore⟩)
  exact (hlate.preserves hnext fun hstep => (stride_of_step? hstep).hopeless).not_started

/-! ### The members -/

/-- What a start has come to, after these moments. -/
def Reached (size : Nat) (moments : List (Moment Bootstrap StartEvent)) (start : Bootstrap) :
    StartPhase → Prop
  | .launching todo => start.handles.length + todo.length = size
  | .awaiting _ => start.handles.length = size
  | .settling _ => start.handles.length = size
  | .searching searches =>
      start.handles.length = size ∧ searches.length = size ∧
        ∀ slot search member, searches[slot]? = some search → search.phase = .found →
          start.fleet.member? slot = some member →
          member.status.Introduced (reports moments slot)
  | .started =>
      start.handles.length = size ∧
        ∀ slot member, start.fleet.member? slot = some member →
          member.status.Introduced (reports moments slot)
  | _ => True

/-- The chart of a start with these settings, after these moments. -/
structure Charted (settings : FleetSettings) (moments : List (Moment Bootstrap StartEvent))
    (start : Bootstrap) : Prop where
  root : start.fleet.rootDir = settings.fleet.rootDir
  configs : start.phase.isDown = false →
    start.fleet.members.map (·.config) = returned moments
  reached : Reached settings.fleet.size.toNat moments start start.phase

namespace Reached

variable {size : Nat} {phase : StartPhase}

theorem of_eq (hreached : Reached size moments start phase)
    (hmembers : next.fleet.members = start.fleet.members)
    (hhandles : next.handles = start.handles) : Reached size moments next phase := by
  unfold Reached at hreached ⊢
  simpa only [Fleet.member?, hmembers, hhandles] using hreached

theorem of_isDown (hdown : phase.isDown = true) : Reached size moments start phase := by
  cases phase with
  | undoing | failed | unwound => trivial
  | launching | awaiting | settling | searching | started => exact absurd hdown Bool.false_ne_true

end Reached

namespace Charted

variable {settings : FleetSettings} {moment : Moment Bootstrap StartEvent}

theorem returned_pass (hreturned : returned [moment] = []) :
    returned (moments ++ [moment]) = returned moments := by
  rw [returned, List.filterMap_append, ← returned, ← returned, hreturned, List.append_nil]

/-- An event that brings neither a configuration nor a report is not on the chart. -/
theorem pass (charted : Charted settings moments next) (hreturned : returned [moment] = [])
    (hreports : ∀ slot, reports [moment] slot = []) :
    Charted settings (moments ++ [moment]) next := by
  have hheard : reports (moments ++ [moment]) = reports moments := by
    funext slot
    rw [reports, List.filterMap_append, ← reports, ← reports, hreports, List.append_nil]
  refine ⟨charted.root, fun hup => (charted.configs hup).trans (returned_pass hreturned).symm, ?_⟩
  have hreached := charted.reached
  unfold Reached at hreached ⊢
  rwa [hheard]

end Charted

theorem configs_markReady (fleet : Fleet) (slot : Nat) (outcome : Except Error Unit) :
    (markReady fleet slot outcome).members.map (·.config) = fleet.members.map (·.config) := by
  cases outcome with
  | error error => rfl
  | ok => exact Fleet.map_changeMember fun _ _ => rfl

/-- A search ends with a report that names a leader, which the snapshot then shows. -/
theorem report_of_found {search : Search} {plan : SearchPlan} {now : Nanos} {member : Member}
    {outcome : Except ProbeFault StatusReport}
    (hfound : (search.take plan now member outcome).1.phase = .found) :
    ∃ report, outcome = .ok report ∧ report.hasLeader = true ∧
      (search.take plan now member outcome).2.status = member.status.discover report := by
  have hretry : (search.retry plan member.name now).phase ≠ .found := by
    unfold Search.retry
    split <;> simp
  cases outcome with
  | ok report =>
      refine ⟨report, rfl, ?_⟩
      unfold Search.take at hfound ⊢
      dsimp only at hfound ⊢
      split at hfound
      next hleader => exact ⟨hleader, by rw [if_pos hleader]; rfl⟩
      next => exact absurd hfound hretry
  | error fault =>
      unfold Search.take at hfound
      dsimp only at hfound
      split at hfound
      next => simp at hfound
      next => exact absurd hfound hretry

/-- A search that goes on introduces nobody. -/
theorem introduced_set {searches : List Search} {slot : Nat} {search : Search}
    (hopen : search.phase ≠ .found)
    (hearlier : ∀ slot search member, searches[slot]? = some search → search.phase = .found →
      start.fleet.member? slot = some member →
      member.status.Introduced (reports moments slot)) :
    ∀ other found member, (searches.set slot search)[other]? = some found →
      found.phase = .found → start.fleet.member? other = some member →
      member.status.Introduced (reports moments other) := by
  intro other found member hfound hphase hmember
  rw [List.getElem?_set] at hfound
  split at hfound
  next =>
    obtain rfl := Option.some.inj (Option.ite_none_right_eq_some.mp hfound).2
    exact absurd hphase hopen
  next => exact hearlier other found member hfound hphase hmember

/-- After an answer, the members that have named a leader are introduced. -/
theorem introduced_hear {slot : Nat} {searches : List Search} {search : Search} {member : Member}
    {outcome : Except ProbeFault StatusReport} {moment : Moment Bootstrap StartEvent}
    (hevent : moment.event = .answered slot (.reply outcome))
    (hearlier : ∀ slot search member, searches[slot]? = some search → search.phase = .found →
      start.fleet.member? slot = some member →
      member.status.Introduced (reports moments slot)) :
    ∀ other found new,
      (searches.set slot
        (search.take start.plan start.fleet.clock.instant member outcome).1)[other]? = some found →
      found.phase = .found →
      (start.fleet.changeMember slot fun _ =>
        (search.take start.plan start.fleet.clock.instant member outcome).2).member? other =
        some new →
      new.status.Introduced (reports (moments ++ [moment]) other) := by
  intro other found new hfound hphase hnew
  rw [reports, List.filterMap_append, ← reports, ← reports]
  -- The member that answered is introduced by this report, the others by earlier ones.
  rcases Fleet.member?_changeMember_cases hnew with ⟨rfl, old, hold, rfl⟩ | ⟨hother, hnew⟩
  · obtain rfl : (search.take start.plan start.fleet.clock.instant member outcome).1 = found := by
      rw [List.getElem?_set, if_pos rfl] at hfound
      exact Option.some.inj (Option.ite_none_right_eq_some.mp hfound).2
    obtain ⟨report, rfl, hleader, hstatus⟩ := report_of_found hphase
    have hreport : reports [moment] slot = [report] := by simp [reports, hevent]
    rw [hreport, hstatus]
    exact member.status.introduced_discover hleader _
  · have hnone : reports [moment] other = [] := by
      cases outcome <;> simp [reports, hevent, hother]
    rw [List.getElem?_set_ne hother] at hfound
    rw [hnone, List.append_nil]
    exact hearlier other found new hfound hphase hnew

namespace Charted

theorem stride {settings : FleetSettings} {moment : Moment Bootstrap StartEvent}
    (charted : Charted settings moments moment.before)
    (hsize : moment.before.fleet.members.length = moment.before.handles.length)
    (stride : Stride moment.before moment.event moment.commands moment.after) :
    Charted settings (moments ++ [moment]) moment.after := by
  obtain ⟨before, event, commands, after⟩ := moment
  dsimp only at charted hsize stride ⊢
  have hconfigs := charted.configs
  have hreached := charted.reached
  cases stride with
  | outside houtside =>
      obtain ⟨hmembers, -, hsame, -⟩ := outside?_keeps houtside
      refine pass ⟨hsame.trans charted.root, fun hup => ?_, hreached.of_eq hmembers rfl⟩ rfl
        fun _ => rfl
      exact (congrArg _ hmembers).trans (hconfigs hup)
  | fall hdown _ hsame =>
      exact ⟨hsame.trans charted.root, fun hup => absurd hdown (by simp [hup]), .of_isDown hdown⟩
  | unwind => exact ⟨charted.root, fun hup => absurd hup.symm Bool.false_ne_true, .of_isDown rfl⟩
  | @launch config canonical following todo hphase =>
      rw [hphase] at hreached hconfigs
      refine ⟨charted.root, fun _ => ?_, ?_⟩
      · rw [returned, List.filterMap_append, ← returned, ← hconfigs rfl]
        simp [enlist, Member.new]
      · simp only [Reached, enlist, List.length_append, List.length_cons, List.length_nil]
          at hreached ⊢
        omega
  | @muster config canonical hphase =>
      rw [hphase] at hreached hconfigs
      refine ⟨charted.root, fun _ => ?_, ?_⟩
      · rw [returned, List.filterMap_append, ← returned, ← hconfigs rfl]
        simp [enlist, Member.new]
      · simpa [Reached, enlist] using hreached
  | @know slot outcome outcomes hphase hslot =>
      rw [hphase] at hreached hconfigs
      exact pass ⟨(Stride.files_markReady before.fleet slot outcome).2.trans charted.root,
        fun _ => (configs_markReady before.fleet slot outcome).trans (hconfigs rfl), hreached⟩
        rfl fun _ => rfl
  | @rally slot due outcomes hphase hslot hall =>
      rw [hphase] at hreached hconfigs
      exact pass ⟨charted.root,
        fun _ => (configs_markReady before.fleet slot (.ok ())).trans (hconfigs rfl), hreached⟩
        rfl fun _ => rfl
  | release hphase hall =>
      rw [hphase] at hreached hconfigs
      exact pass ⟨charted.root, hconfigs, hreached⟩ rfl fun _ => rfl
  | seek hphase =>
      rw [hphase] at hreached hconfigs
      refine pass ⟨charted.root, hconfigs, hreached, (List.length_map ..).trans hreached, ?_⟩ rfl
        fun _ => rfl
      intro slot search member hsearch hfound
      obtain ⟨handle, -, rfl⟩ := List.mem_map.mp (List.mem_of_getElem? hsearch)
      simp at hfound
  | @ask slot searches search asked commands hphase hsearch hchecking hasked =>
      rw [hphase] at hreached hconfigs
      obtain ⟨hhandles, hlength, hintroduced⟩ := hreached
      have hopen : asked.phase ≠ .found := by
        split at hasked <;> simp [hasked]
      exact pass ⟨charted.root, hconfigs, hhandles, (List.length_set ..).trans hlength,
        introduced_set hopen hintroduced⟩ rfl fun _ => rfl
  | @hear slot searches search member outcome hphase hsearch hasking hmember =>
      rw [hphase] at hreached hconfigs
      obtain ⟨hhandles, hlength, hintroduced⟩ := hreached
      refine ⟨charted.root, fun _ => ?_, hhandles, (List.length_set ..).trans hlength,
        introduced_hear rfl hintroduced⟩
      rw [returned_pass rfl]
      exact ((aside_take search _ _ outcome hmember).map_members fun _ => rfl).trans (hconfigs rfl)
  | @complete slot searches search member outcome hphase hsearch hasking hmember hall =>
      rw [hphase] at hreached hconfigs
      obtain ⟨hhandles, hlength, hintroduced⟩ := hreached
      refine ⟨charted.root, fun _ => ?_, hhandles, fun other new hnew => ?_⟩
      · rw [returned_pass rfl]
        exact ((aside_take search _ _ outcome hmember).map_members fun _ => rfl).trans
          (hconfigs rfl)
      · have hother : other < (searches.set slot (search.take before.plan
            before.fleet.clock.instant member outcome).1).length := by
          have hlt : other < (before.fleet.changeMember slot fun _ => (search.take before.plan
            before.fleet.clock.instant member outcome).2).members.length := Fleet.slot_lt hnew
          rw [Fleet.size_changeMember] at hlt
          rw [List.length_set]
          omega
        exact introduced_hear rfl hintroduced other _ new (List.getElem?_eq_getElem hother)
          (hall _ (List.getElem_mem hother)) hnew
  | @rest slot due searches search hphase hsearch hresting =>
      rw [hphase] at hreached hconfigs
      obtain ⟨hhandles, hlength, hintroduced⟩ := hreached
      exact pass ⟨charted.root, hconfigs, hhandles, (List.length_set ..).trans hlength,
        introduced_set (by simp) hintroduced⟩ rfl fun _ => rfl

theorem course {interval : Nanos} {notes : List EngineNote} (kept : Kept interval notes first)
    (charted : Charted settings [] first) (hcourse : Course step? first moments start) :
    Charted settings moments start := by
  induction hcourse with
  | start => exact charted
  | next earlier hstep ih =>
      exact ih.stride (kept.course earlier).fledgling.size_eq (stride_of_step? hstep)

end Charted

theorem Charted.begin {settings : FleetSettings} {token : String} {files after : Files}
    {clock : Clock} {rootFired : Bool} {opening : List Command}
    (hbegin : Bootstrap.begin settings token files clock rootFired =
      (after, .ok (first, opening))) : Charted settings [] first := by
  unfold Bootstrap.begin at hbegin
  split at hbegin
  next => simp at hbegin
  next =>
    split at hbegin
    next => simp at hbegin
    next configs hconfigs =>
      split at hbegin
      next => simp at hbegin
      next =>
        have hlength := Layout.length_memberConfigs hconfigs
        obtain ⟨rfl, hnext⟩ := Prod.mk.inj hbegin
        obtain ⟨rfl, rfl⟩ := Prod.ext_iff.mp (Except.ok.inj hnext)
        cases configs with
        | nil => exact ⟨rfl, fun _ => rfl, hlength⟩
        | cons config todo => exact ⟨rfl, fun _ => rfl, (Nat.zero_add _).trans hlength⟩

/-- What a start that has completed leaves, after these moments. -/
structure Complete (settings : FleetSettings) (moments : List (Moment Bootstrap StartEvent))
    (fleet : Fleet) : Prop where
  slots : fleet.slots.length = settings.fleet.size.toNat
  members : fleet.members.length = settings.fleet.size.toNat
  occupied : ∀ slot < settings.fleet.size.toNat, ∃ handle, fleet.process? slot = some handle
  running : ∀ slot member, fleet.member? slot = some member → member.running = true
  configs : fleet.members.map (·.config) = returned moments
  introduced : ∀ slot member, fleet.member? slot = some member →
    member.status.Introduced (reports moments slot)

theorem Charted.complete {settings : FleetSettings} {interval : Nanos} {notes : List EngineNote}
    (charted : Charted settings moments start) (kept : Kept interval notes start)
    (hstarted : start.phase = .started) : Complete settings moments start.fleet := by
  obtain ⟨hrunning, hslots⟩ : StartPhase.Knows start.fleet start.handles .started :=
    hstarted ▸ kept.knows
  obtain ⟨hsize, hintroduced⟩ : Reached settings.fleet.size.toNat moments start .started :=
    hstarted ▸ charted.reached
  refine ⟨?_, ?_, fun slot hslot => ?_, hrunning, charted.configs (by rw [hstarted]; rfl),
    hintroduced⟩
  · rw [hslots, List.length_map, hsize]
  · rw [kept.fledgling.size_eq, hsize]
  · refine ⟨start.handles[slot], ?_⟩
    rw [Fleet.process?, hslots, List.getElem?_map, List.getElem?_eq_getElem (hsize ▸ hslot)]
    rfl

/-- The moment in which a start fails removes the directory. -/
theorem Stride.files_of_failed (stride : Stride start event commands next) {error : Error}
    (hup : ∀ error, start.phase ≠ .failed error) (hfailed : next.phase = .failed error) :
    next.fleet.files = (start.fleet.files.removeDirectory start.fleet.rootDir).1 := by
  cases stride with
  | fall _ _ _ hremoved => exact hremoved error hfailed
  | outside => exact absurd hfailed (hup error)
  | unwind | launch | muster | know | rally | release | seek | ask | hear | complete | rest =>
      simp at hfailed

end Bootstrap

theorem Started.size_eq {settings : FleetSettings} {fleet : Fleet}
    (hstarted : Started settings fleet) : fleet.members.length = settings.fleet.size.toNat := by
  obtain ⟨token, files, after, clock, rootFired, first, opening, begun, start, hbegin, hcourse,
    hphase, rfl⟩ := hstarted
  have kept := Bootstrap.Kept.begin hbegin
  exact (((Bootstrap.Charted.begin hbegin).course kept hcourse).complete (kept.course hcourse)
    hphase).members

/-- Every slot of a fleet that has just started has its member and its process. -/
theorem Started.exists_seated {settings : FleetSettings} {fleet : Fleet}
    (hstarted : Started settings fleet) {slot : Nat} (hslot : slot < settings.fleet.size.toNat) :
    ∃ member handle, fleet.member? slot = some member ∧ fleet.process? slot = some handle := by
  obtain ⟨member, hmember⟩ := Fleet.exists_member? (Nat.lt_of_lt_of_eq hslot hstarted.size_eq.symm)
  obtain ⟨handle, hprocess⟩ := hstarted.process? hmember
  exact ⟨member, handle, hmember, hprocess⟩

/-- Whatever the settings, the engine, the answers of the members and the moment of the root signal:
settings that are refused leave the files alone and ask nothing of the engine; a start that fails
later leaves no directory if it can be removed; one that completes leaves a fleet of the chosen size
in which every member runs with what the engine gave out and shows its last report; none completes
whose root signal fires before the search for a leader; and one that unwinds undoes nothing. -/
theorem start_all_or_nothing (settings : FleetSettings) (token : String) (files : Files)
    (clock : Clock) (rootFired : Bool) :
    (∀ stop, settings.validate = .error stop ∨
        settings.validate = .ok () ∧ Layout.memberConfigs settings token = .error stop →
      Bootstrap.begin settings token files clock rootFired = (files, .error stop)) ∧
    ∀ after first opening moments start,
      Bootstrap.begin settings token files clock rootFired = (after, .ok (first, opening)) →
      Course Bootstrap.step? first moments start →
      (∀ moment ∈ moments, ∀ error, moment.after.phase = .failed error →
        (∀ earlier, moment.before.phase ≠ .failed earlier) →
        (moment.before.fleet.files.removeDirectory settings.fleet.rootDir).2 = .ok () →
        moment.after.fleet.files.Absent settings.fleet.rootDir) ∧
      (start.phase = .started → Bootstrap.Complete settings moments start.fleet) ∧
      (∀ moment ∈ moments, moment.before.fleet.rootFired = true →
        moment.before.phase.isBeforeSearch = true → start.phase ≠ .started) ∧
      ∀ text, start.phase = .unwound text →
        Bootstrap.Forsaken (EngineNote.ofCommands opening ++ Bootstrap.notes moments) moments
          start := by
  refine ⟨fun stop hstop => ?_, fun after first opening moments start hbegin hcourse => ?_⟩
  · unfold Bootstrap.begin
    rcases hstop with hinvalid | ⟨hvalid, hlayout⟩
    · rw [hinvalid]
    · rw [hvalid, hlayout]
  · have kept := Bootstrap.Kept.begin hbegin
    have charted := Bootstrap.Charted.begin hbegin
    refine ⟨fun moment hmem error hfailed hup hremoved => ?_, fun hstarted => ?_,
      fun moment hmem hroot hbefore => ?_, fun text hunwound => ?_⟩
    · obtain ⟨early, late, -, hearly, hstep, -⟩ := hcourse.cut hmem
      have hroot := (charted.course kept hearly).root
      rw [(Bootstrap.stride_of_step? hstep).files_of_failed hup hfailed, hroot]
      exact Files.absent_removeDirectory hremoved
    · exact (charted.course kept hcourse).complete (kept.course hcourse) hstarted
    · exact Bootstrap.not_started_of_rootFired hcourse hmem hroot hbefore
    · exact Bootstrap.forsaken_of_unwound hbegin hcourse hunwound

theorem removeDirectory_solo :
    (({ entries := [(["fleet"], .directory)] } : Files).removeDirectory "fleet").2 = .ok () := by
  have hsize : "fleet".utf8ByteSize = 5 := rfl
  have hparts : PathParts.ofPath "fleet" = .ok ⟨["fleet"], false⟩ := by
    simp [PathParts.ofPath, Path.splitSlashes, hsize]
  have hentry : Files.entry? { entries := [(["fleet"], .directory)] } ["fleet"] =
      some .directory := rfl
  have hwalk : ({ entries := [(["fleet"], .directory)] } : Files).walk false Files.maxLinks []
      ["fleet"] = .ok ["fleet"] := by
    simp [Files.walk, Files.entry?, Files.maxNameBytes, Keyed.find?, hsize]
  have hstat : ({ entries := [(["fleet"], .directory)] } : Files).stat false "fleet" =
      .ok (["fleet"], .directory) := by
    rw [Files.stat_eq hparts, Bool.or_self, hwalk]
    simp only [hentry]
  have hempty : ∀ files : Files, files.removeEmpty ["fleet"] ⟨["fleet"], false⟩ =
      .ok (files.prune ["fleet"]) := by
    intro files
    have hroot : files.directoryKey [] = .ok [] := by
      simp [Files.directoryKey, Files.walk, Files.entry?, bind, Except.bind]
    simp [Files.removeEmpty, hroot, bind, Except.bind]
  simp [Files.removeDirectory, Files.removeTree, hstat, hparts, hempty, Except.bind]

/-- The start of the smallest fleet begins with a launch. -/
theorem begin_solo (rootFired : Bool) :
    ∃ after first opening config,
      Bootstrap.begin soloSettings "solo" {} {} rootFired = (after, .ok (first, opening)) ∧
      first.phase = .launching [config] ∧ first.handles = [] ∧
      first.fleet.rootFired = rootFired ∧
      (first.fleet.files.removeDirectory soloSettings.fleet.rootDir).2 = .ok () := by
  obtain ⟨config, hconfigs⟩ := memberConfigs_solo "solo"
  unfold Bootstrap.begin
  rw [validate_solo, hconfigs]
  dsimp only
  rw [prepareDirectory_solo]
  exact ⟨_, _, _, config, rfl, rfl, rfl, rfl, removeDirectory_solo⟩

theorem solo_start_all_or_nothing :
    (∃ stop, Bootstrap.begin { fleet := { size := 0 } } "solo" {} {} false = ({}, .error stop)) ∧
    (∃ after first opening moments start error,
      Bootstrap.begin soloSettings "solo" {} {} false = (after, .ok (first, opening)) ∧
      Course Bootstrap.step? first moments start ∧ start.phase = .failed error ∧
      start.fleet.files.Absent soloSettings.fleet.rootDir) ∧
    (∃ after first opening moments start,
      Bootstrap.begin soloSettings "solo" {} {} false = (after, .ok (first, opening)) ∧
      Course Bootstrap.step? first moments start ∧ start.phase = .started ∧
      Bootstrap.Complete soloSettings moments start.fleet) ∧
    (∃ after first opening moments start,
      Bootstrap.begin soloSettings "solo" {} {} true = (after, .ok (first, opening)) ∧
      Course Bootstrap.step? first moments start ∧ moments ≠ [] ∧ start.phase ≠ .started) ∧
    ∃ after first opening moments start text,
      Bootstrap.begin soloSettings "solo" {} {} false = (after, .ok (first, opening)) ∧
      Course Bootstrap.step? first moments start ∧ start.phase = .unwound text ∧
      start.handles.length = 1 ∧
      Bootstrap.Forsaken (EngineNote.ofCommands opening ++ Bootstrap.notes moments) moments
          start := by
  refine ⟨?_, ?_, ?_, ?_, ?_⟩
  · exact ⟨_, (start_all_or_nothing { fleet := { size := 0 } } "solo" {} {} false).1 _ (.inl rfl)⟩
  · obtain ⟨after, first, opening, config, hbegin, hphase, hhandles, -, hremoved⟩ :=
      begin_solo false
    have hundo : first.undo .cancelled =
        ({ first with
          fleet := { first.fleet with
            files := (first.fleet.files.removeDirectory first.fleet.rootDir).1 }
          phase := .failed .cancelled }, []) := by
      rw [Bootstrap.undo, hhandles]
    have hstep : first.step? (.launched (.error .cancelled)) = some (first.undo .cancelled) := by
      simp only [Bootstrap.step?, Bootstrap.onLaunched, hphase]
    rw [hundo] at hstep
    have hcourse := Course.single hstep
    exact ⟨after, first, opening, _, _, .cancelled, hbegin, hcourse, rfl,
      ((start_all_or_nothing soloSettings "solo" {} {} false).2 _ _ _ _ _ hbegin hcourse).1 _
        (List.mem_singleton.mpr rfl) _ rfl (by simp [hphase]) hremoved⟩
  · obtain ⟨after, first, opening, moments, start, hbegin, hcourse, hstarted, -⟩ :=
      solo_can_complete "solo"
    exact ⟨after, first, opening, moments, start, hbegin, hcourse, hstarted,
      ((start_all_or_nothing soloSettings "solo" {} {} false).2
        _ _ _ _ _ hbegin hcourse).2.1 hstarted⟩
  · obtain ⟨after, first, opening, config, hbegin, hphase, -, hroot, -⟩ := begin_solo true
    have hcourse := Course.single (Bootstrap.step?_launched hphase config)
    exact ⟨after, first, opening, _, _, hbegin, hcourse, List.cons_ne_nil _ _,
      ((start_all_or_nothing soloSettings "solo" {} {} true).2 _ _ _ _ _ hbegin hcourse).2.2.1 _
        (List.mem_singleton.mpr rfl) hroot (by rw [hphase]; rfl)⟩
  · obtain ⟨config, hconfigs⟩ := memberConfigs_solo "solo"
    obtain ⟨first, opening, moments, start, hbegin, hcourse, hunwound, hlength⟩ :=
      Bootstrap.begin_can_unwind validate_solo hconfigs prepareDirectory_solo {} "no prober"
    exact ⟨_, first, opening, moments, start, _, hbegin, hcourse, hunwound, hlength,
      ((start_all_or_nothing soloSettings "solo" {} {} false).2
        _ _ _ _ _ hbegin hcourse).2.2.2 _ hunwound⟩

end FleetControl
