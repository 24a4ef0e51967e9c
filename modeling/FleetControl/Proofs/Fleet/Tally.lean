import FleetControl.Proofs.Fleet.Occupation
import FleetControl.Proofs.Fleet.Ownership
import FleetControl.Proofs.Fleet.Records
import FleetControl.Proofs.Fleet.Stopping
import FleetControl.Proofs.Fleet.Stride

/-!
# The tally of transitions

A member is started, and from then on its stops and restarts alternate. So the transitions that
were recorded of it say whether it runs, and they agree with its flag and with its slot. The metrics
count the same transitions, by the member's name.
-/

namespace FleetControl

/-- The transitions of a slot's member, in order. -/
def history (marks : List Mark) (slot : Nat) : List TransitionKind :=
  marks.filterMap fun mark => if mark.1 = slot then some mark.2 else none

/-- How often a member was started or restarted. -/
def risings (kinds : List TransitionKind) : Nat := kinds.count .start + kinds.count .restart

/-- How often a member was stopped, by itself or in a shutdown. -/
def fallings (kinds : List TransitionKind) : Nat := kinds.count .stop + kinds.count .shutdown

theorem history_append (marks more : List Mark) (slot : Nat) :
    history (marks ++ more) slot = history marks slot ++ history more slot :=
  List.filterMap_append

theorem history_single (mark : Mark) (slot : Nat) :
    history [mark] slot = if mark.1 = slot then [mark.2] else [] := by
  unfold history
  by_cases hslot : mark.1 = slot <;> simp [hslot]

/-- A member's transitions from its start on, and whether it runs after them. -/
inductive Alternating : List TransitionKind → Bool → Prop where
  | start : Alternating [.start] true
  | fall {kinds : List TransitionKind} {kind : TransitionKind} (earlier : Alternating kinds true)
      (hkind : kind = .stop ∨ kind = .shutdown) : Alternating (kinds ++ [kind]) false
  | rise {kinds : List TransitionKind} (earlier : Alternating kinds false) :
      Alternating (kinds ++ [.restart]) true

namespace Alternating

variable {kinds : List TransitionKind} {running : Bool}

theorem balance (halternating : Alternating kinds running) :
    risings kinds = fallings kinds + running.toNat := by
  induction halternating with
  | start => rfl
  | fall _ hkind ih =>
      rcases hkind with rfl | rfl <;>
        simp only [risings, fallings, List.count_append, List.count_singleton] at ih ⊢ <;>
        simp at ih ⊢ <;> omega
  | rise _ ih =>
      simp only [risings, fallings, List.count_append, List.count_singleton] at ih ⊢
      simp at ih ⊢
      omega

theorem ne_other (halternating : Alternating kinds running) :
    ∀ kind ∈ kinds, ∀ label, kind ≠ .other label := by
  induction halternating with
  | start => simp
  | fall _ hkind ih =>
      intro kind hmem
      rcases List.mem_append.mp hmem with hmem | hmem
      · exact ih kind hmem
      · obtain rfl := List.mem_singleton.mp hmem
        rcases hkind with rfl | rfl <;> simp
  | rise _ ih =>
      intro kind hmem
      rcases List.mem_append.mp hmem with hmem | hmem
      · exact ih kind hmem
      · simp [List.mem_singleton.mp hmem]

/-- The labels tell the kinds apart. -/
theorem countP_label (halternating : Alternating kinds running) {kind : TransitionKind}
    (hkind : ∀ label, kind ≠ .other label) :
    kinds.countP (fun other => other.label = kind.label) = kinds.count kind := by
  refine List.countP_congr fun other hmem => ?_
  have hother := halternating.ne_other other hmem
  cases other <;> cases kind <;> simp_all [TransitionKind.label]

end Alternating

namespace Fleet

variable {fleet next : Fleet} {marks : List Mark}

def names (fleet : Fleet) : List String := fleet.members.map (·.name)

/-- The series in which a transition is counted. -/
def seriesOf (fleet : Fleet) (mark : Mark) : String × String :=
  (fleet.nameOf mark.1, mark.2.label)

/-- The metrics count these transitions. -/
def Counted (fleet : Fleet) (marks : List Mark) : Prop :=
  ∀ series, (Keyed.find? fleet.metrics.transitions series).getD 0 =
    (marks.map fleet.seriesOf).count series

theorem nameOf_eq (hnames : next.names = fleet.names) (slot : Nat) :
    next.nameOf slot = fleet.nameOf slot := by
  have hname : ∀ fleet : Fleet, fleet.nameOf slot = (fleet.names[slot]?).getD "" := by
    intro fleet
    rw [nameOf, member?, names, List.getElem?_map]
    cases fleet.members[slot]? <;> rfl
  rw [hname, hname, hnames]

theorem seriesOf_eq (hnames : next.names = fleet.names) : next.seriesOf = fleet.seriesOf := by
  funext mark
  rw [seriesOf, nameOf_eq hnames, seriesOf]

theorem names_aside (haside : fleet.Aside next) : next.names = fleet.names :=
  haside.map_members fun _ => rfl

theorem names_changeMember {slot : Nat} {change : Member → Member}
    (hchange : ∀ member, (change member).name = member.name) :
    (fleet.changeMember slot change).names = fleet.names :=
  map_changeMember fun member _ => hchange member

theorem Counted.keep (hcounted : fleet.Counted marks) (hnames : next.names = fleet.names)
    (htransitions : next.metrics.transitions = fleet.metrics.transitions) :
    next.Counted marks := by
  intro series
  rw [htransitions, seriesOf_eq hnames]
  exact hcounted series

/-- One more transition is counted. -/
theorem Counted.record (hcounted : fleet.Counted marks) (hnames : next.names = fleet.names)
    {slot : Nat} {kind : TransitionKind}
    (htransitions : next.metrics.transitions =
      (fleet.metrics.recordTransition (fleet.nameOf slot) kind).transitions) :
    next.Counted (marks ++ [(slot, kind)]) := by
  intro series
  have hbefore := hcounted series
  rw [htransitions, seriesOf_eq hnames, List.map_append, List.count_append, ← hbefore]
  simp only [Metrics.recordTransition, Keyed.modify, List.map_cons, List.map_nil,
    List.count_singleton, seriesOf]
  by_cases hseries : (fleet.nameOf slot, kind.label) = series
  · rw [hseries, Keyed.find?_set_self]
    simp
  · rw [Keyed.find?_set_of_ne _ _ hseries]
    simp [hseries]

theorem names_release (slot : Nat) (kind : TransitionKind) :
    (fleet.release slot kind).names = fleet.names :=
  names_changeMember fun _ => rfl

theorem names_occupy (slot : Nat) (handle : Handle) :
    (fleet.occupy slot handle).names = fleet.names :=
  names_changeMember fun _ => rfl

theorem transitions_release (slot : Nat) (kind : TransitionKind) :
    (fleet.release slot kind).metrics.transitions =
      (fleet.metrics.recordTransition (fleet.nameOf slot) kind).transitions := by
  rw [← nameOf_eq (names_release slot kind) slot]
  rfl

theorem transitions_occupy (slot : Nat) (handle : Handle) :
    (fleet.occupy slot handle).metrics.transitions =
      (fleet.metrics.recordTransition (fleet.nameOf slot) .restart).transitions := by
  rw [← nameOf_eq (names_occupy slot handle) slot]
  rfl

theorem transitions_degrade (slot : Nat) (seen : Nanos) (activity : String) (started : Int)
    (cause : String) :
    (fleet.degrade slot seen activity started cause).metrics.transitions =
      fleet.metrics.transitions := by
  unfold degrade
  split
  next => rfl
  next => split <;> rfl

theorem transitions_outside {outer : Outside} (houtside : fleet.outside? outer = some next) :
    next.metrics.transitions = fleet.metrics.transitions := by
  cases outer with
  | time clock =>
      simp only [outside?, Option.ite_none_right_eq_some, Option.some.injEq] at houtside
      obtain ⟨-, rfl⟩ := houtside
      rfl
  | fireRoot | touch =>
      obtain rfl := Option.some.inj houtside
      rfl

end Fleet

namespace Turn

variable {fleet next : Fleet} {underway later : Option Call} {heard : List EngineNote}
  {commands : List Command} {mark : Option Mark}

theorem names_eq (hturn : Turn fleet underway heard commands mark next later) :
    next.names = fleet.names := by
  cases hturn with
  | stop => exact Fleet.names_release ..
  | clear => exact Fleet.names_release ..
  | hand => exact Fleet.names_changeMember fun _ => rfl
  | ready => exact Fleet.names_occupy ..
  | rest | signal | coolStop | coolRestart | empty | vanish | launch | refuse | giveUp | ended
  | pass | clearEnded | cleared => rfl

/-- A turn counts the transition that it records. -/
theorem counted (hturn : Turn fleet underway heard commands mark next later) {marks : List Mark}
    (hcounted : fleet.Counted marks) : next.Counted (marks ++ mark.toList) := by
  have hnames := hturn.names_eq
  cases hturn with
  | stop => exact hcounted.record hnames (Fleet.transitions_release ..)
  | clear => exact hcounted.record hnames (Fleet.transitions_release ..)
  | ready => exact hcounted.record hnames (Fleet.transitions_occupy ..)
  | rest | signal | coolStop | coolRestart | empty | vanish | launch | refuse | hand | giveUp
  | ended | pass | clearEnded | cleared =>
      rw [Option.toList_none, List.append_nil]
      exact hcounted.keep hnames rfl

end Turn

/-- The monitor counts no transitions. -/
theorem Watching.Move.transitions_eq {watching next : Watching} {commands : List Command}
    (hmove : watching.Move next commands) :
    next.fleet.metrics.transitions = watching.fleet.metrics.transitions := by
  cases hmove with
  | recover => exact Fleet.transitions_degrade ..
  | fail => exact Fleet.transitions_degrade ..
  | tick | gather | look | refresh | note | rest | join | quit | ask | answer | word | commit
  | discard | drop => rfl

namespace System

/-- The transitions that a running fleet records. -/
def marks (moments : List (Moment System Event)) : List Mark :=
  moments.filterMap fun moment => moment.before.recorded? moment.event

theorem marks_concat (moments : List (Moment System Event)) (moment : Moment System Event) :
    marks (moments ++ [moment]) =
      marks moments ++ (moment.before.recorded? moment.event).toList := by
  unfold marks
  rw [List.filterMap_append]
  cases hrecorded : moment.before.recorded? moment.event <;> simp [hrecorded]

theorem Step.counted {system next : System} {event : Event} {commands : List Command}
    (hstep : system.Step event commands next) {marks : List Mark}
    (hcounted : system.fleet.Counted marks) :
    next.fleet.Counted (marks ++ (system.recorded? event).toList) := by
  cases hstep with
  | turn hturn => exact hturn.counted hcounted
  | move hmove _ _ _ hrecorded =>
      rw [hrecorded, Option.toList_none, List.append_nil]
      exact hcounted.keep (Fleet.names_aside hmove.aside) hmove.transitions_eq
  | outside houtside hevent =>
      subst hevent
      rw [show system.recorded? (.outside _) = none from rfl, Option.toList_none, List.append_nil]
      exact hcounted.keep (Fleet.names_aside (.outside houtside))
        (Fleet.transitions_outside houtside)

/-- What was recorded of a running fleet agrees with its flags and its slots. -/
structure Audited (notes : List EngineNote) (marks : List Mark) (system : System) : Prop where
  sound : system.Sound notes
  matched : system.fleet.Matched
  alternating : ∀ slot member, system.fleet.member? slot = some member →
    Alternating (history marks slot) member.running
  counted : system.fleet.Counted marks
  placed : ∀ mark ∈ marks, mark.1 < system.fleet.members.length

namespace Audited

variable {notes : List EngineNote} {marks : List Mark} {system next : System} {event : Event}
  {commands : List Command}

/-- A step goes on with the transitions of every member. -/
theorem alternating_step (audited : system.Audited notes marks)
    (hstep : system.Step event commands next) {slot : Nat} {member : Member}
    (hmember : next.fleet.member? slot = some member) :
    Alternating (history (marks ++ (system.recorded? event).toList) slot) member.running := by
  rw [history_append]
  by_cases hmark : ∃ kind, system.recorded? event = some (slot, kind)
  · obtain ⟨kind, hmark⟩ := hmark
    have hturn := hstep.turn_of_recorded hmark
    obtain ⟨old, hold, hturned⟩ := hturn.exists_member? hmember
    have hearlier := audited.alternating slot old hold
    rw [hturned.running_eq, hmark, Option.toList_some, history_single, if_pos rfl]
    rcases audited.sound.booked.running_of_turn audited.matched hturn hold with
      ⟨hkind, hrunning⟩ | ⟨rfl, hrunning⟩
    · rw [hrunning] at hearlier
      have hfalls : decide (kind = .restart) = false := by
        rcases hkind with rfl | rfl <;> rfl
      rw [hfalls]
      exact hearlier.fall hkind
    · rw [hrunning] at hearlier
      exact hearlier.rise
  · -- Nothing is recorded of this member, and its flag stays.
    have hnone : ∀ kind, system.recorded? event ≠ some (slot, kind) :=
      fun kind hkind => hmark ⟨kind, hkind⟩
    obtain ⟨old, hold, -, hrunning⟩ := hstep.standing_eq hnone hmember
    have hsilent : history (system.recorded? event).toList slot = [] := by
      cases hrecorded : system.recorded? event with
      | none => rfl
      | some mark =>
          have hother : mark.1 ≠ slot := fun hslot => hnone mark.2 (hslot ▸ hrecorded)
          rw [Option.toList_some, history_single, if_neg hother]
    rw [hsilent, List.append_nil, hrunning]
    exact audited.alternating slot old hold

theorem step (audited : system.Audited notes marks)
    (hstep : system.step? event = some (next, commands)) :
    next.Audited (notes ++ (system.heard event ++ EngineNote.ofCommands commands))
      (marks ++ (system.recorded? event).toList) := by
  have hsound : next.Sound (notes ++ System.notes [⟨system, event, commands, next⟩]) :=
    audited.sound.course (.single hstep)
  rw [show System.notes [⟨system, event, commands, next⟩] =
    system.heard event ++ EngineNote.ofCommands commands by simp [System.notes]] at hsound
  obtain ⟨-, hstepped⟩ := step_of_step? audited.sound.orderly hstep
  refine ⟨hsound, hstepped.matched audited.matched audited.sound.booked.size,
    fun slot member => audited.alternating_step hstepped, hstepped.counted audited.counted, ?_⟩
  intro mark hmem
  rw [hstepped.size_eq]
  rcases List.mem_append.mp hmem with hmem | hmem
  · exact audited.placed mark hmem
  · have hturn := hstepped.turn_of_recorded (Option.mem_toList.mp hmem)
    obtain ⟨slot, kind⟩ := mark
    exact audited.sound.booked.slot_lt_of_turn hturn

theorem course (audited : system.Audited notes marks) {moments : List (Moment System Event)}
    (hcourse : Course System.step? system moments next) :
    next.Audited (notes ++ System.notes moments) (marks ++ System.marks moments) := by
  induction hcourse with
  | start => simpa [System.notes, System.marks] using audited
  | next _ hstep ih =>
      rw [marks_concat, ← List.append_assoc]
      simpa [System.notes] using ih.step hstep

end Audited

end System

namespace Bootstrap

/-- The transitions that a start records. -/
def marks (moments : List (Moment Bootstrap StartEvent)) : List Mark :=
  moments.filterMap fun moment =>
    match moment.event with
    | .ready slot (.ok ()) => some (slot, .start)
    | _ => none

/-- The starts of these members are recorded, and nothing else. -/
structure Recorded (started : Nat → Prop) [DecidablePred started] (marks : List Mark)
    (fleet : Fleet) : Prop where
  counted : fleet.Counted marks
  history_eq : ∀ slot, history marks slot = if started slot then [.start] else []

/-- What a phase of a start has recorded: the processes that became ready, each once. -/
def Noted (marks : List Mark) (start : Bootstrap) : StartPhase → Prop
  | .launching _ => marks = [] ∧ start.fleet.metrics.transitions = []
  | .awaiting outcomes =>
      Recorded (fun slot => outcomes[slot]? = some (some (.ok ()))) marks start.fleet
  | .settling _ => Recorded (· < start.handles.length) marks start.fleet
  | .searching _ => Recorded (· < start.handles.length) marks start.fleet
  | .started => Recorded (· < start.handles.length) marks start.fleet
  | _ => True

variable {start next : Bootstrap} {event : StartEvent} {commands : List Command}
  {marked : List Mark} {interval : Nanos} {notes : List EngineNote}

theorem noted_of_isDown {phase : StartPhase} (hdown : phase.isDown = true) :
    Noted marked start phase := by
  cases phase with
  | undoing | failed | unwound => trivial
  | launching | awaiting | settling | searching | started => exact absurd hdown Bool.false_ne_true

namespace Recorded

variable {started : Nat → Prop} [DecidablePred started] {fleet after : Fleet}

theorem aside (hrecorded : Recorded started marked fleet) (haside : fleet.Aside after)
    (htransitions : after.metrics.transitions = fleet.metrics.transitions) :
    Recorded started marked after :=
  ⟨hrecorded.counted.keep (Fleet.names_aside haside) htransitions, hrecorded.history_eq⟩

theorem of_iff {others : Nat → Prop} [DecidablePred others]
    (hrecorded : Recorded started marked fleet) (hsame : ∀ slot, started slot ↔ others slot) :
    Recorded others marked fleet :=
  ⟨hrecorded.counted, fun slot => by simp only [hrecorded.history_eq, hsame]⟩

/-- One more process is known to be ready. -/
theorem ready {outcomes : List (Option (Except Error Unit))} {slot : Nat}
    (hrecorded : Recorded (fun slot => outcomes[slot]? = some (some (.ok ()))) marked fleet)
    (hslot : outcomes[slot]? = some none) :
    Recorded (fun other => (outcomes.set slot (some (.ok ())))[other]? = some (some (.ok ())))
      (marked ++ [(slot, .start)]) (markReady fleet slot (.ok ())) := by
  have hnames : (markReady fleet slot (.ok ())).names = fleet.names :=
    Fleet.names_changeMember fun _ => rfl
  have hcount : (markReady fleet slot (.ok ())).metrics.transitions =
      (fleet.metrics.recordTransition (fleet.nameOf slot) .start).transitions := by
    rw [← Fleet.nameOf_eq hnames slot]
    rfl
  refine ⟨hrecorded.counted.record hnames hcount, fun other => ?_⟩
  rw [history_append, history_single, hrecorded.history_eq]
  by_cases hother : slot = other
  · subst hother
    have hset := List.getElem?_set_self (a := some (.ok ())) (List.getElem?_eq_some_iff.mp hslot).1
    rw [if_neg (by simp [hslot]), if_pos rfl, if_pos hset, List.nil_append]
  · rw [List.getElem?_set_ne hother, if_neg hother, List.append_nil]

/-- One more process is known never to be ready. -/
theorem unready {outcomes : List (Option (Except Error Unit))} {slot : Nat}
    (hrecorded : Recorded (fun slot => outcomes[slot]? = some (some (.ok ()))) marked fleet)
    (hslot : outcomes[slot]? = some none) (error : Error) :
    Recorded (fun other => (outcomes.set slot (some (.error error)))[other]? =
      some (some (.ok ()))) marked fleet := by
  refine hrecorded.of_iff fun other => ?_
  by_cases hother : slot = other
  · subst hother
    rw [hslot, List.getElem?_set_self (List.getElem?_eq_some_iff.mp hslot).1]
    simp
  · rw [List.getElem?_set_ne hother]

/-- Once all processes are ready, all starts are recorded. -/
theorem all {outcomes : List (Option (Except Error Unit))} {size : Nat}
    (hrecorded : Recorded (fun slot => outcomes[slot]? = some (some (.ok ()))) marked fleet)
    (hlength : outcomes.length = size) (hall : ∀ outcome ∈ outcomes, outcome = some (.ok ())) :
    Recorded (· < size) marked fleet := by
  refine hrecorded.of_iff fun slot => ⟨fun hready => ?_, fun hslot => ?_⟩
  · exact hlength ▸ (List.getElem?_eq_some_iff.mp hready).1
  · rw [List.getElem?_eq_getElem (hlength ▸ hslot), hall _ (List.getElem_mem _)]

end Recorded

/-- What is recorded does not depend on what happens aside of the start. -/
theorem noted_aside {after : Fleet} {phase : StartPhase} (hnoted : Noted marked start phase)
    (haside : start.fleet.Aside after)
    (htransitions : after.metrics.transitions = start.fleet.metrics.transitions) :
    Noted marked { start with fleet := after } phase := by
  cases phase with
  | launching => exact ⟨hnoted.1, htransitions.trans hnoted.2⟩
  | awaiting | settling | searching | started => exact hnoted.aside haside htransitions
  | undoing | failed | unwound => trivial

theorem Stride.noted (stride : Stride start event commands next)
    (kept : Kept interval notes start) (hnoted : Noted marked start start.phase) :
    Noted (marked ++ marks [⟨start, event, commands, next⟩]) next next.phase := by
  have hknows := kept.knows
  -- Only the readiness of a process is recorded.
  have hsilent : marked ++ [] = marked := List.append_nil marked
  cases stride with
  | outside houtside =>
      have hafter := noted_aside hnoted (.outside houtside) (Fleet.transitions_outside houtside)
      exact hsilent.symm ▸ hafter
  | fall hdown => exact noted_of_isDown hdown
  | unwind => exact noted_of_isDown rfl
  | launch hphase =>
      rw [hphase] at hnoted
      exact ⟨by rw [hnoted.1]; rfl, hnoted.2⟩
  | @muster config canonical hphase =>
      rw [hphase] at hnoted
      obtain ⟨rfl, htransitions⟩ := hnoted
      refine ⟨fun series => ?_, fun slot => ?_⟩
      · show (Keyed.find? start.fleet.metrics.transitions series).getD 0 = 0
        rw [htransitions]
        rfl
      · rw [if_neg]
        · rfl
        · intro hready
          rw [List.getElem?_map, Option.map_eq_some_iff] at hready
          obtain ⟨handle, -, hnone⟩ := hready
          cases hnone
  | @know slot outcome outcomes hphase hslot =>
      rw [hphase] at hnoted
      cases outcome with
      | ok => exact hnoted.ready hslot
      | error error => exact hsilent.symm ▸ hnoted.unready hslot error
  | @rally slot due outcomes hphase hslot hall =>
      rw [hphase] at hnoted hknows
      exact (hnoted.ready hslot).all ((List.length_set ..).trans hknows.1) hall
  | release hphase hall =>
      rw [hphase] at hnoted hknows
      have hrecorded := hnoted.all hknows.1 hall
      exact hsilent.symm ▸ hrecorded
  | seek hphase =>
      rw [hphase] at hnoted
      exact hsilent.symm ▸ hnoted
  | ask hphase =>
      rw [hphase] at hnoted
      exact hsilent.symm ▸ hnoted
  | @hear slot searches search member outcome hphase hsearch hasking hmember =>
      rw [hphase] at hnoted
      have hrecorded := hnoted.aside (aside_take search start.plan start.fleet.clock.instant
        outcome hmember) rfl
      exact hsilent.symm ▸ hrecorded
  | @complete slot searches search member outcome hphase hsearch hasking hmember hall =>
      rw [hphase] at hnoted
      have hrecorded := hnoted.aside (aside_take search start.plan start.fleet.clock.instant
        outcome hmember) rfl
      exact hsilent.symm ▸ ⟨hrecorded.counted, hrecorded.history_eq⟩
  | rest hphase =>
      rw [hphase] at hnoted
      exact hsilent.symm ▸ hnoted

theorem marks_concat (moments : List (Moment Bootstrap StartEvent))
    (moment : Moment Bootstrap StartEvent) :
    marks (moments ++ [moment]) = marks moments ++ marks [moment] :=
  List.filterMap_append

theorem noted_begin {settings : FleetSettings} {token : String} {files after : Files}
    {clock : Clock} {rootFired : Bool} {opening : List Command}
    (hbegin : Bootstrap.begin settings token files clock rootFired =
      (after, .ok (start, opening))) : Noted [] start start.phase := by
  unfold Bootstrap.begin at hbegin
  split at hbegin
  next => simp at hbegin
  next =>
    split at hbegin
    next => simp at hbegin
    next configs hconfigs =>
      split at hbegin
      next => simp at hbegin
      next =>
        obtain ⟨rfl, hnext⟩ := Prod.mk.inj hbegin
        obtain ⟨rfl, rfl⟩ := Prod.ext_iff.mp (Except.ok.inj hnext)
        cases configs with
        | nil => exact ⟨fun _ => rfl, fun _ => rfl⟩
        | cons config todo => exact ⟨rfl, rfl⟩

theorem noted_course {moments : List (Moment Bootstrap StartEvent)}
    (kept : Kept interval notes start) (hnoted : Noted [] start start.phase)
    (hcourse : Course step? start moments next) : Noted (marks moments) next next.phase := by
  induction hcourse with
  | start => exact hnoted
  | next earlier hstep ih =>
      rw [marks_concat]
      exact (stride_of_step? hstep).noted (kept.course earlier) ih

/-- A completed start has recorded that every member was started. -/
theorem Kept.audited (kept : Kept interval notes start) (hstarted : start.phase = .started)
    (hnoted : Noted marked start start.phase) (tick : Nanos) :
    (System.ofStart start.fleet tick).Audited notes marked := by
  rw [hstarted] at hnoted
  have hknows : StartPhase.Knows start.fleet start.handles .started := hstarted ▸ kept.knows
  have hslots : ∀ slot member, start.fleet.member? slot = some member →
      slot < start.handles.length :=
    fun slot member hmember => kept.fledgling.size_eq ▸ Fleet.slot_lt hmember
  refine ⟨kept.sound hstarted tick, fun slot member hmember => ?_, fun slot member hmember => ?_,
    hnoted.counted, fun mark hmem => ?_⟩
  · have hslot := hslots slot member hmember
    have hprocess : start.fleet.process? slot = some start.handles[slot] := by
      rw [Fleet.process?, hknows.2, List.getElem?_map, List.getElem?_eq_getElem hslot]
      rfl
    rw [hknows.1 slot member hmember]
    exact Option.isSome_iff_exists.mpr ⟨_, hprocess⟩
  · rw [hnoted.history_eq, if_pos (hslots slot member hmember), hknows.1 slot member hmember]
    exact .start
  · have hslot : mark.1 < start.handles.length := by
      by_contra hpast
      have hnone := hnoted.history_eq mark.1
      rw [if_neg hpast] at hnone
      have hkind : mark.2 ∈ history marked mark.1 :=
        List.mem_filterMap.mpr ⟨mark, hmem, if_pos rfl⟩
      simp [hnone] at hkind
    exact kept.fledgling.size_eq.symm ▸ hslot

end Bootstrap

/-- The value of the counter for a kind of transition of the members with a name. -/
def Metrics.transitionsOf (metrics : Metrics) (name : String) (kind : TransitionKind) : Nat :=
  (Keyed.find? metrics.transitions (name, kind.label)).getD 0

/-- A member's own series counts its own transitions. -/
theorem Fleet.Counted.transitionsOf_eq {fleet : Fleet} {marks : List Mark}
    (hcounted : fleet.Counted marks) {slot : Nat} {name : String} (kind : TransitionKind)
    (hown : ∀ mark ∈ marks, fleet.nameOf mark.1 = name ↔ mark.1 = slot) :
    fleet.metrics.transitionsOf name kind =
      (history marks slot).countP fun other => other.label = kind.label := by
  rw [Metrics.transitionsOf, hcounted]
  clear hcounted
  induction marks with
  | nil => rfl
  | cons mark rest ih =>
      have hrest := ih fun other hmem => hown other (List.mem_cons_of_mem _ hmem)
      have hname := hown mark List.mem_cons_self
      rw [List.map_cons, List.count_cons, hrest, show mark :: rest = [mark] ++ rest from rfl,
        history_append, List.countP_append, history_single, Nat.add_comm]
      congr 1
      by_cases hslot : mark.1 = slot
      · rw [Fleet.seriesOf, hname.mpr hslot, if_pos hslot]
        simp
      · have hother : fleet.nameOf mark.1 ≠ name := fun hsame => hslot (hname.mp hsame)
        simp [Fleet.seriesOf, hslot, hother]

/-- In the fleet that a completed start leaves, whatever is called and whatever the engine and the
members do: a member's slot holds a process exactly if its flag says that it runs, which it does
exactly if it was started and restarted once more often than it was stopped, by itself or in a
shutdown; else it was stopped as often. Where no other member has its name, these are the numbers
that the metrics show. -/
theorem slots_flags_and_tallies_agree {settings : FleetSettings} {token : String}
    {files after : Files} {clock : Clock} {rootFired : Bool} {first start : Bootstrap}
    {opening : List Command} {begun : List (Moment Bootstrap StartEvent)}
    (hbegin : Bootstrap.begin settings token files clock rootFired =
      (after, .ok (first, opening)))
    (hstart : Course Bootstrap.step? first begun start) (hstarted : start.phase = .started)
    {tick : Nanos} {moments : List (Moment System Event)} {last : System}
    (hcourse : Course System.step? (System.ofStart start.fleet tick) moments last) {slot : Nat}
    {member : Member} (hmember : last.fleet.member? slot = some member)
    {kinds : List TransitionKind}
    (hkinds : kinds = history (Bootstrap.marks begun ++ System.marks moments) slot) :
    ((last.fleet.process? slot).isSome = true ↔ member.running = true) ∧
    (member.running = true ↔ risings kinds = fallings kinds + 1) ∧
    (member.running = false → risings kinds = fallings kinds) ∧
    ((∀ other old, last.fleet.member? other = some old → old.name = member.name → other = slot) →
      ∀ kind ∈ [TransitionKind.start, .restart, .stop, .shutdown],
        last.fleet.metrics.transitionsOf member.name kind = kinds.count kind) := by
  subst hkinds
  have kept := Bootstrap.Kept.begin hbegin
  have hnoted := Bootstrap.noted_course kept (Bootstrap.noted_begin hbegin) hstart
  have audited := ((kept.course hstart).audited hstarted hnoted tick).course hcourse
  have halternating := audited.alternating slot member hmember
  have hbalance := halternating.balance
  refine ⟨by rw [audited.matched slot member hmember], ⟨fun hrunning => ?_, fun hmore => ?_⟩,
    fun hstopped => ?_, fun hunique kind hkind => ?_⟩
  · rw [hrunning] at hbalance
    exact hbalance
  · cases hrunning : member.running with
    | true => rfl
    | false =>
        rw [hrunning] at hbalance
        exact absurd (hbalance.symm.trans hmore) (Nat.ne_of_lt (Nat.lt_succ_self _))
  · rw [hstopped] at hbalance
    exact hbalance
  · have hown : ∀ mark ∈ Bootstrap.marks begun ++ System.marks moments,
        last.fleet.nameOf mark.1 = member.name ↔ mark.1 = slot := by
      intro mark hmem
      obtain ⟨old, hold⟩ := Fleet.exists_member? (audited.placed mark hmem)
      have hname : last.fleet.nameOf mark.1 = old.name := by
        rw [Fleet.nameOf, hold]
        rfl
      rw [hname]
      refine ⟨hunique mark.1 old hold, fun hslot => ?_⟩
      rw [hslot, hmember] at hold
      rw [Option.some.inj hold]
    rw [audited.counted.transitionsOf_eq kind hown]
    refine halternating.countP_label fun label => ?_
    rintro rfl
    simp at hkind

/-- The member of the smallest fleet is started once, and then stopped once. -/
theorem solo_slots_flags_and_tallies_agree :
    ∃ after first opening begun start moments last member kinds,
      Bootstrap.begin soloSettings "solo" {} {} false = (after, .ok (first, opening)) ∧
      Course Bootstrap.step? first begun start ∧ start.phase = .started ∧
      Course System.step? (System.ofStart start.fleet 0) moments last ∧
      last.fleet.member? 0 = some member ∧
      kinds = history (Bootstrap.marks begun ++ System.marks moments) 0 ∧
      last.fleet.process? 0 = none ∧ member.running = false ∧ risings kinds = fallings kinds ∧
      last.fleet.metrics.transitionsOf member.name .stop = kinds.count .stop := by
  obtain ⟨after, first, opening, begun, start, hbegin, hstart, hstarted, hlength⟩ :=
    solo_can_complete "solo"
  have hsolo : Started soloSettings start.fleet :=
    ⟨_, _, _, _, _, _, _, _, start, hbegin, hstart, hstarted, rfl⟩
  have hsize := ((Bootstrap.Kept.begin hbegin).course hstart).fledgling.size_eq
  obtain ⟨member, hmember⟩ := Fleet.exists_member? (hsize.trans hlength ▸ Nat.one_pos)
  obtain ⟨handle, hprocess⟩ := hsolo.process? hmember
  obtain ⟨moments, last, hcourse, hmark⟩ :=
    System.course_stopped 0 (Fleet.slot_lt hmember) hprocess
  obtain ⟨hearlier, hstep, -⟩ := hcourse.at_moment
  obtain ⟨orderly, hsame⟩ :=
    System.orderly_size_of_course (System.orderly_ofStart start.fleet 0) hearlier
  obtain ⟨-, hstepped⟩ := System.step_of_step? orderly hstep
  have hlast : last.fleet.members.length = 1 :=
    hstepped.size_eq.trans (hsame.trans (hsize.trans hlength))
  obtain ⟨stopped, hstopped⟩ := Fleet.exists_member? (hlast ▸ Nat.one_pos)
  have hempty : last.fleet.process? 0 = none := (hstepped.turn_of_recorded hmark).emptied
  obtain ⟨hmatched, -, hequal, hcounters⟩ :=
    slots_flags_and_tallies_agree hbegin hstart hstarted hcourse hstopped rfl
  have hrunning : stopped.running = false := by
    rw [hempty] at hmatched
    simpa using hmatched
  refine ⟨after, first, opening, begun, start, _, last, stopped, _, hbegin, hstart, hstarted,
    hcourse, hstopped, rfl, hempty, hrunning, hequal hrunning, hcounters ?_ _ (by simp)⟩
  intro other old hold _
  have hlt := Fleet.slot_lt hold
  omega

end FleetControl
