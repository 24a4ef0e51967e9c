import FleetControl.Proofs.Fleet.Completion
import FleetControl.Proofs.Fleet.Stride

/-!
# A start that unwinds

A prober that unwinds while a leader is looked for takes the start with it, and so does a count of
attempts that overflows. That is no failure of the start: nothing is undone. Every process that the
engine has handed out is left as it was, and the directory stays in place.
-/

namespace FleetControl

open EngineNote

namespace Bootstrap

variable {start next first : Bootstrap} {event : StartEvent} {commands opening : List Command}
  {moments : List (Moment Bootstrap StartEvent)}

/-- A start that has failed stays failed. -/
theorem failed_of_step? {error : Error} (hstep : start.step? event = some (next, commands))
    (hfailed : start.phase = .failed error) : next.phase = .failed error := by
  cases event with
  | outside outer =>
      simp only [step?, Option.map_eq_some_iff, Prod.mk.injEq] at hstep
      obtain ⟨fleet, -, rfl, -⟩ := hstep
      exact hfailed
  | launched | ready | settled | attempt | answered | rested | abandoned | ended =>
      simp [step?, onLaunched, onReady, onAttempt, onAnswered, onRested, onAbandoned, onEnded,
        hfailed] at hstep

/-- Until a start has failed, only others change the files. -/
theorem Stride.files_eq (stride : Stride start event commands next)
    (hup : ∀ error, next.phase ≠ .failed error)
    (hevent : ∀ files, event ≠ .outside (.touch files)) :
    next.fleet.files = start.fleet.files := by
  cases stride with
  | @outside outer fleet houtside =>
      cases outer with
      | time clock =>
          simp only [Fleet.outside?, Option.ite_none_right_eq_some, Option.some.injEq] at houtside
          rw [← houtside.2]
      | fireRoot =>
          obtain rfl := Option.some.inj houtside
          rfl
      | touch files => exact absurd rfl (hevent files)
  | fall _ _ _ _ _ hkept => exact hkept hup
  | know => exact (files_markReady ..).1
  | rally => exact (files_markReady ..).1
  | unwind | launch | muster | release | seek | ask | hear | complete | rest => rfl

/-- As long as nothing was torn down, a process that was handed out stays in its place. -/
theorem Stride.handles_of_isLive (stride : Stride start event commands next)
    (hlive : next.phase.isLive = true) :
    start.phase.isLive = true ∧ ∀ slot handle,
      start.handles[slot]? = some handle ∨ .handed slot handle ∈ start.heard event →
        next.handles[slot]? = some handle := by
  -- The places that were filled before stay so, and the new process takes the next one.
  have henlist : ∀ canonical slot handle, start.handles[slot]? = some handle ∨
      .handed slot handle ∈ start.heard (.launched (.ok canonical)) →
      (start.enlist canonical).handles[slot]? = some handle := by
    rintro canonical slot handle (hbefore | hhanded)
    · have hslot : slot < start.handles.length := (List.getElem?_eq_some_iff.mp hbefore).1
      exact (List.getElem?_append_left hslot).trans hbefore
    · obtain ⟨rfl, rfl⟩ := EngineNote.handed.inj (List.mem_singleton.mp hhanded)
      exact List.getElem?_concat_length ..
  cases stride with
  | outside => exact ⟨hlive, by simp [heard]⟩
  | fall _ _ _ _ htorn => exact absurd (htorn.symm.trans hlive) Bool.false_ne_true
  | unwind hphase hsilent => exact ⟨by rw [hphase]; rfl, by simp [hsilent]⟩
  | launch hphase | muster hphase => exact ⟨by rw [hphase]; rfl, henlist _⟩
  | know hphase | rally hphase | release hphase | seek hphase | ask hphase | hear hphase
  | complete hphase | rest hphase => exact ⟨by rw [hphase]; rfl, by simp [heard]⟩

theorem handles_of_course (hcourse : Course step? first moments start)
    (hlive : start.phase.isLive = true) {slot : Nat} {handle : Handle}
    (hhanded : .handed slot handle ∈ notes moments) : start.handles[slot]? = some handle := by
  induction hcourse with
  | start => simp [notes] at hhanded
  | next _ hstep ih =>
      obtain ⟨hbefore, hhandles⟩ := (stride_of_step? hstep).handles_of_isLive hlive
      rw [notes, List.flatMap_append, ← notes, List.flatMap_singleton, List.mem_append,
        List.mem_append] at hhanded
      rcases hhanded with hearly | hheard | hcommanded
      · exact hhandles slot handle (.inl (ih hbefore hearly))
      · exact hhandles slot handle (.inr hheard)
      · exact absurd hcommanded (handed_not_mem_ofCommands slot handle _)

/-- Until a start has completed, nothing is put into a slot. -/
theorem Stride.slots_eq (stride : Stride start event commands next)
    (hlive : next.phase.isLive = true) (hnext : next.phase ≠ .started) :
    start.phase ≠ .started ∧ next.fleet.slots = start.fleet.slots := by
  cases stride with
  | outside houtside => exact ⟨hnext, (Fleet.Aside.outside houtside).slots⟩
  | fall _ _ _ _ htorn => exact absurd (htorn.symm.trans hlive) Bool.false_ne_true
  | complete => exact absurd rfl hnext
  | @know slot outcome _ hphase =>
      exact ⟨by simp [hphase], by cases outcome <;> rfl⟩
  | unwind hphase | launch hphase | muster hphase | rally hphase | release hphase | seek hphase
  | ask hphase | hear hphase | rest hphase => exact ⟨by simp [hphase], rfl⟩

theorem slots_of_course (hcourse : Course step? first moments start)
    (hlive : start.phase.isLive = true) (hphase : start.phase ≠ .started) :
    start.fleet.slots = first.fleet.slots := by
  induction hcourse with
  | start => rfl
  | next _ hstep ih =>
      have stride := stride_of_step? hstep
      obtain ⟨hbefore, hslots⟩ := stride.slots_eq hlive hphase
      exact hslots.trans (ih (stride.handles_of_isLive hlive).1 hbefore)

theorem slots_begin {settings : FleetSettings} {token : String} {files after : Files}
    {clock : Clock} {rootFired : Bool}
    (hbegin : begin settings token files clock rootFired = (after, .ok (first, opening))) :
    first.fleet.slots = [] := by
  unfold begin at hbegin
  split at hbegin
  next => simp at hbegin
  next =>
    split at hbegin
    next => simp at hbegin
    next configs _ =>
      split at hbegin
      next => simp at hbegin
      next =>
        obtain ⟨-, hnext⟩ := Prod.mk.inj hbegin
        obtain ⟨rfl, -⟩ := Prod.ext_iff.mp (Except.ok.inj hnext)
        cases configs <;> rfl

/-- A start leaves behind what it did: every process as it was handed out and in no slot, and the
files as they were but for what others did to them. -/
structure Forsaken (notes : List EngineNote) (moments : List (Moment Bootstrap StartEvent))
    (start : Bootstrap) : Prop where
  stranded : ∀ slot handle, .handed slot handle ∈ notes →
    Stranded notes start.fleet.slots slot handle
  files : ∀ moment ∈ moments, (∀ files, moment.event ≠ .outside (.touch files)) →
    moment.after.fleet.files = moment.before.fleet.files

/-- Nothing is undone in a start that unwinds. -/
theorem forsaken_of_unwound {settings : FleetSettings} {token : String} {files after : Files}
    {clock : Clock} {rootFired : Bool} {text : String}
    (hbegin : begin settings token files clock rootFired = (after, .ok (first, opening)))
    (hcourse : Course step? first moments start) (hunwound : start.phase = .unwound text) :
    Forsaken (ofCommands opening ++ notes moments) moments start := by
  have hlive : start.phase.isLive = true := by rw [hunwound]; rfl
  have kept := (Kept.begin hbegin).course hcourse
  refine ⟨fun slot handle hhanded => ⟨?_, ?_⟩, fun moment hmem hevent => ?_⟩
  · have hlater := (List.mem_append.mp hhanded).resolve_left
      (handed_not_mem_ofCommands slot handle _)
    refine (kept.liveLedger hlive).placed ?_
    rw [List.getElem?_map, handles_of_course hcourse hlive hlater]
    rfl
  · rw [slots_of_course hcourse hlive (by simp [hunwound]), slots_begin hbegin]
    simp
  · obtain ⟨early, late, -, -, hstep, hlate⟩ := hcourse.cut hmem
    refine (stride_of_step? hstep).files_eq (fun error hfailed => ?_) hevent
    have hover := hlate.preserves hfailed fun hstep before => failed_of_step? hstep before
    simp [hunwound] at hover

/-- The prober of a start may unwind with the first question. -/
theorem leads_unwound {left : Nat} (hphase : start.phase = .searching (searchesAt 0 (left + 1)))
    (hroot : start.fleet.rootFired = false) (hsize : 0 < start.fleet.members.length)
    (text : String) : Leads start { start with phase := .unwound text } := by
  obtain ⟨member, hmember⟩ := Fleet.exists_member? hsize
  have hanswered : ({ start with
      phase := .searching ((searchesAt 0 (left + 1)).set 0 askingSearch) } : Bootstrap).step?
      (.answered 0 (.unwound text)) = some ({ start with phase := .unwound text }, []) := by
    simp only [step?, onAnswered, getElem?_asking, hmember, Option.bind_eq_bind, Option.bind_some]
    rw [if_neg (by simp [askingSearch])]
  exact (Leads.of_step? (step?_attempt hphase hroot hmember)).trans (.of_step? hanswered)

/-- A start that has begun can be unwound once all members are launched, whatever their number. -/
theorem begin_can_unwind {settings : FleetSettings} {token : String} {files after : Files}
    {config : MemberConfig} {todo : List MemberConfig} (hvalid : settings.validate = .ok ())
    (hconfigs : Layout.memberConfigs settings token = .ok (config :: todo))
    (hfiles : files.prepareDirectory settings.fleet.rootDir = (after, .ok ())) (clock : Clock)
    (text : String) :
    ∃ first opening moments start,
      begin settings token files clock false = (after, .ok (first, opening)) ∧
      Course step? first moments start ∧ start.phase = .unwound text ∧
      start.handles.length = todo.length + 1 := by
  obtain ⟨blank, hbegin, hhandles, hroot, -⟩ := begin_eq hvalid hconfigs hfiles clock false
  obtain ⟨searching, hsearching, hphase, hlength, hstill, hsize⟩ :=
    can_search (Kept.begin hbegin) rfl hhandles
  obtain ⟨moments, hcourse⟩ := hsearching.trans
    (leads_unwound hphase (hstill.trans hroot) (by omega) text)
  exact ⟨_, _, moments, _, hbegin, hcourse, rfl, hlength⟩

end Bootstrap

end FleetControl
