import FleetControl.Proofs.Fleet.Aftermath
import FleetControl.Proofs.Fleet.Apart
import FleetControl.Proofs.Fleet.Tally

/-!
# The gauges of the members

Whoever writes the role of a member to its record sets the member's gauges with it, except for the
start: it marks the members started and takes over what they report, and tells the metrics nothing
of it. So while calls and rounds come one after another the gauges of a member follow its snapshot
from the first write after the start on, and until then they do not exist.
-/

namespace FleetControl

/-- The gauges under a member's name: the role and the data size, where they were ever set. -/
def Metrics.gaugesOf (metrics : Metrics) (name : String) : Option Nat × Option Nat :=
  (Keyed.find? metrics.states name, Keyed.find? metrics.dbSizes name)

/-- What gauges that follow a snapshot are set to. -/
def MemberStatus.gauges (status : MemberStatus) : Option Nat × Option Nat :=
  (some status.state.gauge, some (min status.dbSize Metrics.maxDbSize))

/-- No other member has the name of the one in a slot. -/
def Fleet.Unrivalled (fleet : Fleet) (slot : Nat) : Prop :=
  ∀ other < fleet.members.length, fleet.nameOf other = fleet.nameOf slot → other = slot

/-- The gauges of a slot's member follow its snapshot. -/
def Fleet.Gauged (fleet : Fleet) (slot : Nat) : Prop :=
  ∀ member, fleet.member? slot = some member →
    fleet.metrics.gaugesOf member.name = member.status.gauges

/-- The gauges of a slot's member stay, and so does what they are to follow; a member that runs
keeps its whole record. -/
structure Fleet.Spares (fleet next : Fleet) (slot : Nat) : Prop where
  gauges : next.metrics.gaugesOf (fleet.nameOf slot) = fleet.metrics.gaugesOf (fleet.nameOf slot)
  record : ∀ member, next.member? slot = some member → ∃ old, fleet.member? slot = some old ∧
    member.name = old.name ∧ member.status.gauges = old.status.gauges ∧
    (old.running = true → member = old)

namespace Metrics

theorem gaugesOf_recordState_self (metrics : Metrics) (name : String) (state : MemberState)
    (dbSize : Nat) :
    (metrics.recordState name state dbSize).gaugesOf name =
      (some state.gauge, some (min dbSize maxDbSize)) := by
  simp [gaugesOf, recordState]

theorem gaugesOf_recordState_of_ne (metrics : Metrics) {name other : String} (hother : name ≠ other)
    (state : MemberState) (dbSize : Nat) :
    (metrics.recordState name state dbSize).gaugesOf other = metrics.gaugesOf other := by
  simp only [gaugesOf, recordState, Keyed.find?_set_of_ne _ _ hother]

end Metrics

namespace Fleet

variable {fleet next : Fleet} {slot other : Nat} {change : Member → Member}

theorem nameOf_of_member? {member : Member} (hmember : fleet.member? slot = some member) :
    fleet.nameOf slot = member.name := by
  rw [nameOf, hmember]
  rfl

theorem Unrivalled.of_names (hown : fleet.Unrivalled slot) (hnames : next.names = fleet.names) :
    next.Unrivalled slot := by
  have hsize : next.members.length = fleet.members.length := by
    simpa [names] using congrArg List.length hnames
  intro other hother hname
  rw [nameOf_eq hnames, nameOf_eq hnames] at hname
  exact hown other (hsize ▸ hother) hname

theorem Spares.of_eq (hmembers : next.members = fleet.members)
    (hstates : next.metrics.states = fleet.metrics.states)
    (hsizes : next.metrics.dbSizes = fleet.metrics.dbSizes) : fleet.Spares next slot where
  gauges := by rw [Metrics.gaugesOf, hstates, hsizes, Metrics.gaugesOf]
  record member hmember :=
    ⟨member, by rwa [member?, ← hmembers], rfl, rfl, fun _ => rfl⟩

/-- A change of a record that does not show in its gauges, and leaves a running member alone. -/
theorem Spares.changeMember
    (hchange : ∀ member, fleet.member? other = some member → (change member).name = member.name ∧
      (change member).status.gauges = member.status.gauges ∧
      (member.running = true → change member = member)) :
    fleet.Spares (fleet.changeMember other change) slot where
  gauges := rfl
  record member hmember := by
    rcases member?_changeMember_cases hmember with ⟨rfl, old, hold, rfl⟩ | ⟨-, hmember⟩
    · exact ⟨old, hold, hchange old hold⟩
    · exact ⟨member, hmember, rfl, rfl, fun _ => rfl⟩

/-- The record in another slot is written together with the gauges of its member. -/
theorem Spares.recordState (hown : fleet.Unrivalled slot) (hother : other ≠ slot)
    (hslot : other < fleet.members.length)
    (hname : ∀ member, fleet.member? other = some member → (change member).name = member.name)
    (state : MemberState) (dbSize : Nat) :
    fleet.Spares ((fleet.changeMember other change).recordState other state dbSize) slot where
  gauges := by
    have hnames : (fleet.changeMember other change).names = fleet.names := map_changeMember hname
    have hrival : fleet.nameOf other ≠ fleet.nameOf slot := fun hsame =>
      hother (hown other hslot hsame)
    rw [Fleet.recordState, nameOf_eq hnames, Metrics.gaugesOf_recordState_of_ne _ hrival]
    rfl
  record member hmember := by
    rcases member?_changeMember_cases hmember with ⟨hsame, -⟩ | ⟨-, hmember⟩
    · exact absurd hsame hother
    · exact ⟨member, hmember, rfl, rfl, fun _ => rfl⟩

/-- A record is written together with the gauges of its member. -/
theorem gauged_recordState {state : MemberState} {dbSize : Nat}
    (hshows : ∀ member, fleet.member? slot = some member →
      (change member).status.state = state ∧ (change member).status.dbSize = dbSize) :
    ((fleet.changeMember slot change).recordState slot state dbSize).Gauged slot := by
  intro member hmember
  have hmember : (fleet.changeMember slot change).member? slot = some member := hmember
  have hname := nameOf_of_member? hmember
  obtain ⟨old, hold, rfl⟩ := Option.map_eq_some_iff.mp
    ((fleet.member?_changeMember_self slot change).symm.trans hmember)
  obtain ⟨hstate, hsize⟩ := hshows old hold
  rw [← hname, Fleet.recordState, Metrics.gaugesOf_recordState_self, MemberStatus.gauges, hstate,
    hsize]

/-- A degradation shows in the gauges, or else touches nothing. -/
theorem gauged_or_spares_degrade (hown : fleet.Unrivalled slot) (other : Nat) (seen : Nanos)
    (activity : String) (started : Int) (cause : String) :
    (fleet.degrade other seen activity started cause).Gauged slot ∨
      fleet.Spares (fleet.degrade other seen activity started cause) slot := by
  unfold degrade
  cases hmember : fleet.member? other with
  | none => exact .inr (.of_eq rfl rfl rfl)
  | some member =>
      dsimp only
      unfold Member.markUnreachable Member.updateStatusSince
      by_cases hseen : member.transition.instant = seen
      · simp only [if_pos hseen]
        by_cases hother : other = slot
        · subst hother
          exact .inl (gauged_recordState fun _ _ => ⟨rfl, rfl⟩)
        · refine .inr (.recordState hown hother (slot_lt hmember) (fun old hold => ?_) _ _)
          rw [Option.some.inj (hold.symm.trans hmember)]
          rfl
      · simp only [if_neg hseen]
        exact .inr (.of_eq rfl rfl rfl)

theorem spares_outside {outer : Outside} (houtside : fleet.outside? outer = some next) :
    fleet.Spares next slot := by
  cases outer with
  | time clock =>
      simp only [outside?, Option.ite_none_right_eq_some, Option.some.injEq] at houtside
      obtain ⟨-, rfl⟩ := houtside
      exact .of_eq rfl rfl rfl
  | fireRoot | touch =>
      obtain rfl := Option.some.inj houtside
      exact .of_eq rfl rfl rfl

end Fleet

/-- The monitor writes no record without the gauges, but for the texts of members that do not
run. -/
theorem Watching.Move.gauged_or_spares {watching next : Watching} {commands : List Command}
    (hmove : watching.Move next commands) {slot : Nat} (hown : watching.fleet.Unrivalled slot) :
    next.fleet.Gauged slot ∨ watching.fleet.Spares next.fleet slot := by
  cases hmove with
  | tick | gather | look | note | rest | join | quit | ask | answer | word | discard | drop =>
      exact .inr (.of_eq rfl rfl rfl)
  | refresh =>
      refine .inr (.changeMember fun member _ => ?_)
      unfold Member.refreshStoppedText
      split
      next => exact ⟨rfl, rfl, fun _ => rfl⟩
      next hstopped => exact ⟨rfl, rfl, fun hrunning => absurd hrunning hstopped⟩
  | recover => exact Fleet.gauged_or_spares_degrade hown _ _ _ _ _
  | @fail other probe fault started =>
      have hcounted : (watching.fleet.recordProbeFailure other fault.stage).Unrivalled slot := hown
      exact (Fleet.gauged_or_spares_degrade hcounted other probe.seen fault.stage.activity started
        fault.source.message).imp_right fun spares => ⟨spares.gauges, spares.record⟩
  | @commit other probe member config report text hprobe hmember hphase hseen =>
      by_cases hother : other = slot
      · subst hother
        exact .inl (Fleet.gauged_recordState fun _ _ => ⟨rfl, rfl⟩)
      · refine .inr (.recordState hown hother (Fleet.slot_lt hmember) (fun old hold => ?_) _ _)
        rw [Option.some.inj (hold.symm.trans hmember)]
        rfl

namespace Turn

variable {notes heard : List EngineNote} {fleet next : Fleet} {underway later : Option Call}
  {commands : List Command} {mark : Option Mark} {slot : Nat}

/-- A transition is recorded together with the gauges of its member. -/
theorem gauged (booked : Booked notes fleet underway) (hmatched : fleet.Matched)
    (truthful : fleet.Truthful) {kind : TransitionKind}
    (hturn : Turn fleet underway heard commands (some (slot, kind)) next later) :
    next.Gauged slot := by
  have hrestarted : kind = .restart → ∀ member, fleet.member? slot = some member →
      member.status.dbSize = 0 := by
    intro hkind member hmember
    rcases booked.running_of_turn hmatched hturn hmember with ⟨hstop, -⟩ | ⟨-, hstopped⟩
    · simp [hkind] at hstop
    · exact (truthful slot member hmember hstopped).dbSize
  cases hturn with
  | stop | clear =>
      have hgauged : ((fleet.changeMember slot (·.markStopped fleet.clock)).recordState slot
          .stopped 0).Gauged slot := Fleet.gauged_recordState fun _ _ => ⟨rfl, rfl⟩
      exact hgauged
  | ready =>
      have hgauged : ((fleet.changeMember slot (·.markStarted "restarted" fleet.clock)).recordState
          slot .follower 0).Gauged slot :=
        Fleet.gauged_recordState fun member hmember => ⟨rfl, hrestarted rfl member hmember⟩
      exact hgauged

/-- Without one the gauges stay, and so does what they show. -/
theorem spares (booked : Booked notes fleet underway) (hmatched : fleet.Matched)
    (hown : fleet.Unrivalled slot)
    (hturn : Turn fleet underway heard commands mark next later)
    (hnone : ∀ kind, mark ≠ some (slot, kind)) : fleet.Spares next slot := by
  have hrelease : ∀ {other handle} kind, fleet.process? other = some handle → other ≠ slot →
      fleet.Spares (fleet.release other kind) slot := by
    intro other handle kind hprocess hother
    have hspares : fleet.Spares ((fleet.changeMember other
        (·.markStopped fleet.clock)).recordState other .stopped 0) slot := by
      refine .recordState hown hother (booked.slot_lt hprocess) ?_ _ _
      exact fun _ _ => rfl
    exact ⟨hspares.gauges, hspares.record⟩
  cases hturn with
  | rest | signal | coolStop | coolRestart | empty | vanish | launch | refuse | giveUp | ended
  | pass | clearEnded | cleared => exact .of_eq rfl rfl rfl
  | stop _ hprocess => exact hrelease .stop hprocess fun hsame => hnone .stop (by rw [hsame])
  | clear hprocess => exact hrelease .shutdown hprocess fun hsame => hnone .shutdown (by rw [hsame])
  | @hand id other config =>
      -- The member of a restart does not run before the engine hands out its process.
      have hprocess : fleet.process? other = none := booked.sees _ rfl
      have hspares : fleet.Spares (fleet.changeMember other (·.setConfig config)) slot := by
        refine .changeMember fun member hmember => ⟨rfl, rfl, fun hrunning => ?_⟩
        exact absurd ((hmatched.stopped hmember hprocess).symm.trans hrunning) Bool.false_ne_true
      exact ⟨hspares.gauges, hspares.record⟩
  | @ready id other handle hslot =>
      have hother : other ≠ slot := fun hsame => hnone .restart (by rw [hsame])
      have hspares : fleet.Spares ((fleet.changeMember other
          (·.markStarted "restarted" fleet.clock)).recordState other .follower 0) slot := by
        refine .recordState hown hother hslot ?_ _ _
        exact fun _ _ => rfl
      exact ⟨hspares.gauges, hspares.record⟩

end Turn

namespace System

variable {system next : System} {event : Event} {commands : List Command} {slot : Nat}

theorem names_eq_of_step (hstep : system.Step event commands next) :
    next.fleet.names = system.fleet.names := by
  cases hstep with
  | turn hturn => exact hturn.names_eq
  | move hmove => exact Fleet.names_aside hmove.aside
  | outside houtside => exact Fleet.names_aside (.outside houtside)

/-- Nobody gets another name. -/
theorem names_eq_of_course {first last : System} {moments : List (Moment System Event)}
    (orderly : first.Orderly) (hcourse : Course step? first moments last) :
    last.fleet.names = first.fleet.names := by
  suffices hlast : last.Orderly ∧ last.fleet.names = first.fleet.names from hlast.2
  apply hcourse.preserves ⟨orderly, rfl⟩
  intro before event after commands hstep hbefore
  obtain ⟨horderly, hstepped⟩ := step_of_step? hbefore.1 hstep
  exact ⟨horderly, (names_eq_of_step hstepped).trans hbefore.2⟩

/-- Every step sets the gauges of a member to what its record shows, or records no transition of it
and spares them. -/
theorem Steady.gauged_or_spares (steady : system.Steady) (hown : system.fleet.Unrivalled slot)
    (hstep : system.Step event commands next) :
    next.fleet.Gauged slot ∨ system.fleet.Spares next.fleet slot ∧
      ∀ kind, system.recorded? event ≠ some (slot, kind) := by
  obtain ⟨⟨notes, sound⟩, hmatched⟩ := steady.kept
  by_cases hmark : ∃ kind, system.recorded? event = some (slot, kind)
  · obtain ⟨kind, hmark⟩ := hmark
    exact .inl ((hstep.turn_of_recorded hmark).gauged sound.booked hmatched steady.truthful)
  · have hnone : ∀ kind, system.recorded? event ≠ some (slot, kind) :=
      fun kind hkind => hmark ⟨kind, hkind⟩
    cases hstep with
    | turn hturn => exact .inr ⟨hturn.spares sound.booked hmatched hown hnone, hnone⟩
    | move hmove => exact (hmove.gauged_or_spares hown).imp_right fun hspares => ⟨hspares, hnone⟩
    | outside houtside => exact .inr ⟨Fleet.spares_outside houtside, hnone⟩

end System

/-- In every run of a started fleet in which calls and rounds come one after another, whatever the
engine and the members answer: no member whose name is its own has gauges after the start. They come
with the first transition or report of the member, and from then on they show the role and the
capped data size of its snapshot; until then its record stays the one that the start has left. -/
theorem gauges_follow_snapshots_once_set {settings : FleetSettings} {fleet : Fleet}
    (hstarted : Started settings fleet) {tick : Nanos} {moments : List (Moment System Event)}
    {last : System} (hcourse : Course System.step? (System.ofStart fleet tick) moments last)
    (hsequential : Sequential moments) {slot : Nat} (hown : fleet.Unrivalled slot)
    {first member : Member} (hfirst : fleet.member? slot = some first)
    (hmember : last.fleet.member? slot = some member) :
    fleet.metrics.gaugesOf first.name = (none, none) ∧
    (last.fleet.metrics.gaugesOf member.name = member.status.gauges ∨
      Unmarked slot moments ∧ member = first ∧
        last.fleet.metrics.gaugesOf member.name = (none, none)) := by
  have hfresh : ∀ name, fleet.metrics.gaugesOf name = (none, none) := by
    intro name
    simp [Metrics.gaugesOf, hstarted.fresh.states, hstarted.fresh.dbSizes]
  refine ⟨hfresh _, ?_⟩
  induction hcourse generalizing member with
  | start =>
      obtain rfl := Option.some.inj (hfirst.symm.trans hmember)
      exact .inr ⟨List.forall_mem_nil _, rfl, hfresh _⟩
  | @next moments last after event commands earlier hstep ih =>
      obtain ⟨hearly, -⟩ := hsequential.of_append
      have steady := (hstarted.steady tick).course earlier hearly
      obtain ⟨-, hstepped⟩ := System.step_of_step? steady.kept.orderly hstep
      have hnames := System.names_eq_of_course (System.orderly_ofStart fleet tick) earlier
      rcases steady.gauged_or_spares (hown.of_names hnames) hstepped with
        hgauged | ⟨hspares, hnone⟩
      · exact .inl (hgauged member hmember)
      · obtain ⟨old, hold, hname, hshown, hkept⟩ := hspares.record member hmember
        have hsame := hspares.gauges
        rw [Fleet.nameOf_of_member? hold, ← hname] at hsame
        rcases ih hearly hold with hgauged | ⟨hunmarked, rfl, hunset⟩
        · rw [hsame, hname, hgauged, hshown]
          exact .inl rfl
        · refine .inr ⟨List.forall_mem_append.mpr ⟨hunmarked, unmarked_singleton.mpr hnone⟩, ?_, ?_⟩
          · exact hkept (hstarted.running hfirst)
          · rw [hsame, hname, hunset]

/-- The monitor may complete the visit of the first member before anything else happens. -/
theorem System.course_first_report {fleet : Fleet} {member : Member}
    (hmember : fleet.member? 0 = some member) (hrunning : member.running = true)
    (hwatched : fleet.stopFired = false) (report : ProbeReport) :
    ∃ moments last text, Course step? (ofStart fleet 0) moments last ∧ Sequential moments ∧
      last.fleet.member? 0 =
        some (member.updateStatus (·.commit member.config.clientUrl text report)) := by
  have hnoting : (inFirstRound fleet (.noting 0 []) []).monitor.phase = .noting 0 [] := rfl
  obtain ⟨visited, last, hvisit, hevents, -, hwritten⟩ :=
    course_visit hnoting hmember (by simp [inFirstRound]) report
  have hround := ((Course.single (step?_tick_ofStart hwatched)).append
    (.single (step?_survey_inFirstRound hmember hrunning))).append hvisit
  have hcalm : ∀ moment ∈ visited,
      (∀ operation, moment.event ≠ .call operation) ∧ moment.event ≠ .tick := by
    intro moment hmem
    have hevent : moment.event ∈ visit 0 report := hevents ▸ List.mem_map_of_mem hmem
    simp only [visit, List.mem_cons, List.not_mem_nil, or_false] at hevent
    rcases hevent with hevent | hevent | hevent | hevent | hevent <;> simp [hevent]
  refine ⟨_, last, _, hround, .of_uncalled (List.forall_mem_append.mpr ⟨by simp, ?_⟩)
    (List.forall_mem_append.mpr ⟨by simp [returned_ofStart], ?_⟩), hwritten⟩
  · exact fun moment hmem => (hcalm moment hmem).1
  · exact fun moment hmem htick => absurd htick (hcalm moment hmem).2

/-- The member of the smallest fleet reports in the first round. -/
theorem solo_gauges_follow_snapshots_once_set :
    ∃ fleet first moments last member, Started soloSettings fleet ∧
      Course System.step? (System.ofStart fleet 0) moments last ∧ Sequential moments ∧
      fleet.Unrivalled 0 ∧ fleet.member? 0 = some first ∧
      fleet.metrics.gaugesOf first.name = (none, none) ∧ last.fleet.member? 0 = some member ∧
      member.status.state = .leader ∧
      last.fleet.metrics.gaugesOf member.name = member.status.gauges := by
  obtain ⟨fleet, first, handle, hstarted, hmembers, -⟩ :=
    started_soloAt rfl prepareDirectory_solo
  have hfirst : fleet.member? 0 = some first := by rw [Fleet.member?, hmembers]; rfl
  have hown : fleet.Unrivalled 0 := by
    intro other hother _
    rw [hmembers] at hother
    exact Nat.lt_one_iff.mp hother
  obtain ⟨moments, last, text, hcourse, hsequential, hwritten⟩ :=
    System.course_first_report hfirst (hstarted.running hfirst) hstarted.fledgling.watched
      ⟨⟨1, 1, first.status.dbSize + 1⟩, 0⟩
  obtain ⟨hunset, hgauges⟩ :=
    gauges_follow_snapshots_once_set hstarted hcourse hsequential hown hfirst hwritten
  refine ⟨fleet, first, moments, last, _, hstarted, hcourse, hsequential, hown, hfirst, hunset,
    hwritten, rfl, hgauges.resolve_right fun hsame => ?_⟩
  have hsize : first.status.dbSize + 1 = first.status.dbSize :=
    congrArg (·.status.dbSize) hsame.2.1
  omega

/-- So it does not hold that the gauges follow the snapshots whenever neither a call nor a round is
going on. -/
theorem not_all_gauges_follow_snapshots :
    ¬ ∀ settings fleet tick moments last slot member, Started settings fleet →
      Course System.step? (System.ofStart fleet tick) moments last → Sequential moments →
      last.Returned → last.Unwatched → fleet.Unrivalled slot →
      last.fleet.member? slot = some member →
      last.fleet.metrics.gaugesOf member.name = member.status.gauges := by
  intro hfollow
  obtain ⟨fleet, member, handle, hstarted, hmembers, -⟩ :=
    started_soloAt rfl prepareDirectory_solo
  have hmember : fleet.member? 0 = some member := by rw [Fleet.member?, hmembers]; rfl
  have hcalm : Sequential [] :=
    ⟨List.forall_mem_nil _, List.forall_mem_nil _, List.forall_mem_nil _⟩
  have hgauges := hfollow _ fleet 0 [] _ 0 member hstarted .start hcalm
    (System.returned_ofStart fleet 0) (.inl rfl)
    (fun other hother _ => Nat.lt_one_iff.mp (by simpa [System.ofStart, hmembers] using hother))
    hmember
  simp [System.ofStart, Metrics.gaugesOf, MemberStatus.gauges, hstarted.fresh.states] at hgauges

end FleetControl
