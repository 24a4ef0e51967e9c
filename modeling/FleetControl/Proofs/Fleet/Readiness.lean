import FleetControl.Proofs.Fleet.Endpoints
import FleetControl.Proofs.Fleet.Ownership

/-!
# The wait for all processes

A start waits for all processes together: it looks at how the waits ended only when the last one has
ended. So a process that fails to become ready undoes the start, whatever the others do, as soon as
nobody is awaited any more; as long as one is, the start does nothing, and for a process that stays
up and never accepts connections that is for ever.
-/

namespace FleetControl

/-- The first failure in slot order, among the waits that have ended. -/
def firstFailure? (outcomes : List (Option (Except Error Unit))) : Option Error :=
  outcomes.findSome? fun outcome =>
    match outcome with
    | some (.error error) => some error
    | _ => none

/-- How the wait for a slot's process ends, if it does with this event. -/
def StartEvent.readiness? (slot : Nat) : StartEvent → Option (Except Error Unit)
  | .ready other outcome => if other = slot then some outcome else none
  | _ => none

namespace StartPhase

/-- The processes are awaited. -/
def isAwaiting : StartPhase → Bool
  | .awaiting _ => true
  | _ => false

/-- The error with which the start fails. -/
def cause? : StartPhase → Option Error
  | .undoing error _ => some error
  | .failed error => some error
  | _ => none

/-- Some wait is going on; or all have ended, and the first failure is the reason why the start is
undone. -/
def Doomed (outcomes : List (Option (Except Error Unit))) : StartPhase → Prop
  | .awaiting current => current = outcomes ∧ none ∈ outcomes
  | .undoing error alive =>
      none ∉ outcomes ∧ firstFailure? outcomes = some error ∧ alive ≠ []
  | .failed error => none ∉ outcomes ∧ firstFailure? outcomes = some error
  | _ => False

namespace Doomed

variable {outcomes : List (Option (Except Error Unit))} {phase : StartPhase}

theorem isAwaiting_iff (hdoomed : phase.Doomed outcomes) :
    phase.isAwaiting = true ↔ none ∈ outcomes := by
  cases phase with
  | awaiting current => exact iff_of_true rfl hdoomed.2
  | undoing error alive => exact iff_of_false Bool.false_ne_true hdoomed.1
  | failed error => exact iff_of_false Bool.false_ne_true hdoomed.1
  | launching | settling | searching | unwound | started => exact hdoomed.elim

theorem cause?_eq (hdoomed : phase.Doomed outcomes) (hall : none ∉ outcomes) :
    phase.cause? = firstFailure? outcomes ∧ (firstFailure? outcomes).isSome = true := by
  cases phase with
  | awaiting current => exact absurd hdoomed.2 hall
  | undoing error alive =>
      obtain ⟨-, hfirst, -⟩ := hdoomed
      exact ⟨hfirst.symm, by rw [hfirst]; rfl⟩
  | failed error =>
      obtain ⟨-, hfirst⟩ := hdoomed
      exact ⟨hfirst.symm, by rw [hfirst]; rfl⟩
  | launching | settling | searching | unwound | started => exact hdoomed.elim

end Doomed

end StartPhase

namespace Bootstrap

variable {start next waiting : Bootstrap} {event : StartEvent} {commands : List Command}
  {moments : List (Moment Bootstrap StartEvent)} {moment : Moment Bootstrap StartEvent}
  {outcomes : List (Option (Except Error Unit))} {size slot : Nat}

/-! ### How the waits ended -/

/-- How the wait for a slot's process ended, if it did in these moments. -/
def told (moments : List (Moment Bootstrap StartEvent)) (slot : Nat) :
    Option (Except Error Unit) :=
  moments.findSome? fun moment => moment.event.readiness? slot

/-- How the waits for all processes ended. -/
def tidings (size : Nat) (moments : List (Moment Bootstrap StartEvent)) :
    List (Option (Except Error Unit)) :=
  (List.range size).map (told moments)

theorem told_concat (moments : List (Moment Bootstrap StartEvent))
    (moment : Moment Bootstrap StartEvent) (slot : Nat) :
    told (moments ++ [moment]) slot = (told moments slot).or (moment.event.readiness? slot) := by
  rw [told, List.findSome?_append, ← told, List.findSome?_singleton]

theorem tidings_nil (size : Nat) : tidings size [] = List.replicate size none :=
  List.map_const'.trans (congrArg (List.replicate · none) List.length_range)

theorem getElem?_tidings (hslot : slot < size) :
    (tidings size moments)[slot]? = some (told moments slot) := by
  rw [tidings, List.getElem?_map, List.getElem?_range hslot]
  rfl

theorem mem_tidings_iff {outcome : Option (Except Error Unit)} :
    outcome ∈ tidings size moments ↔ ∃ slot < size, told moments slot = outcome := by
  simp [tidings]

/-- An event that ends no wait tells nothing. -/
theorem tidings_silent (hsilent : ∀ slot, moment.event.readiness? slot = none) :
    tidings size (moments ++ [moment]) = tidings size moments := by
  refine List.map_congr_left fun slot _ => ?_
  rw [told_concat, hsilent, Option.or_none]

theorem tidings_ready {outcome : Except Error Unit} (hevent : moment.event = .ready slot outcome)
    (hopen : (tidings size moments)[slot]? = some none) :
    tidings size (moments ++ [moment]) = (tidings size moments).set slot (some outcome) := by
  refine List.ext_getElem? fun other => ?_
  rw [List.getElem?_set]
  by_cases hother : slot = other
  · subst hother
    have hslot : slot < size := by
      simpa [tidings] using (List.getElem?_eq_some_iff.mp hopen).1
    have huntold : told moments slot = none :=
      Option.some.inj ((getElem?_tidings hslot).symm.trans hopen)
    rw [if_pos rfl, if_pos (by simpa [tidings] using hslot), getElem?_tidings hslot, told_concat,
      huntold, hevent]
    simp [StartEvent.readiness?]
  · rw [if_neg hother]
    have hsilent : moment.event.readiness? other = none := by
      rw [hevent, StartEvent.readiness?, if_neg hother]
    by_cases hlt : other < size
    · rw [getElem?_tidings hlt, getElem?_tidings hlt, told_concat, hsilent, Option.or_none]
    · simp [tidings, hlt]

/-! ### One step -/

theorem find?_eq_firstFailure? (outcomes : List (Option (Except Error Unit))) :
    ((outcomes.filterMap id).find? fun outcome => !outcome.isOk) =
      (firstFailure? outcomes).map Except.error := by
  induction outcomes with
  | nil => rfl
  | cons outcome rest ih =>
      rcases outcome with - | ⟨error⟩ | ⟨⟩
      · exact ih
      · rfl
      · exact ih

/-- Once all waits have ended, the first failure undoes the start. -/
theorem settleAwaiting_eq_undo {error : Error} (hall : none ∉ outcomes)
    (hfirst : firstFailure? outcomes = some error) (start : Bootstrap) :
    start.settleAwaiting outcomes = start.undo error := by
  have hknown : outcomes.all Option.isSome = true := by
    refine List.all_eq_true.mpr fun outcome hmem => Option.isSome_iff_ne_none.mpr ?_
    rintro rfl
    exact hall hmem
  rw [settleAwaiting, if_pos hknown, find?_eq_firstFailure?, hfirst]
  rfl

/-- What a start does while processes are awaited and the root signal is not fired. -/
theorem awaiting_step (hphase : start.phase = .awaiting outcomes)
    (hroot : start.fleet.rootFired = false) (hstep : start.step? event = some (next, commands)) :
    (∃ outer fleet, event = .outside outer ∧ start.fleet.outside? outer = some fleet ∧
      next = { start with fleet } ∧ commands = []) ∨
    ∃ slot outcome, event = .ready slot outcome ∧ outcomes[slot]? = some none ∧
      settleAwaiting { start with fleet := markReady start.fleet slot outcome }
        (outcomes.set slot (some outcome)) = (next, commands) := by
  cases event with
  | outside outer =>
      simp only [step?, Option.map_eq_some_iff, Prod.mk.injEq] at hstep
      obtain ⟨fleet, houtside, rfl, rfl⟩ := hstep
      exact .inl ⟨outer, fleet, rfl, houtside, rfl, rfl⟩
  | ready slot outcome =>
      simp only [step?, onReady, hphase] at hstep
      split at hstep
      next hopen => exact .inr ⟨slot, outcome, rfl, hopen, Option.some.inj hstep⟩
      next => simp at hstep
  | abandoned => simp [step?, onAbandoned, hroot] at hstep
  | launched | ended => simp [step?, onLaunched, onEnded, hphase] at hstep
  | settled => simp [step?, hphase] at hstep
  | attempt | answered | rested =>
      simp [step?, onAttempt, onAnswered, onRested, hphase] at hstep

/-- What a start does while its processes are being torn down. -/
theorem undoing_step {error : Error} {alive : List Handle}
    (hphase : start.phase = .undoing error alive)
    (hstep : start.step? event = some (next, commands)) :
    (∀ slot, event.readiness? slot = none) ∧
      (next.phase = start.phase ∨ next.phase = .failed error ∨
        ∃ rest, rest ≠ [] ∧ next.phase = .undoing error rest) := by
  cases event with
  | outside outer =>
      simp only [step?, Option.map_eq_some_iff, Prod.mk.injEq] at hstep
      obtain ⟨fleet, -, rfl, -⟩ := hstep
      exact ⟨fun _ => rfl, .inl rfl⟩
  | ended handle =>
      refine ⟨fun _ => rfl, ?_⟩
      simp only [step?, onEnded, hphase] at hstep
      split at hstep
      next =>
        split at hstep
        next =>
          obtain ⟨rfl, -⟩ := Prod.mk.inj (Option.some.inj hstep)
          exact .inr (.inl rfl)
        next hrest =>
          obtain ⟨rfl, -⟩ := Prod.mk.inj (Option.some.inj hstep)
          exact .inr (.inr ⟨_, hrest, rfl⟩)
      next => simp at hstep
  | launched | ready => simp [step?, onLaunched, onReady, hphase] at hstep
  | settled | abandoned => simp [step?, onAbandoned, hphase] at hstep
  | attempt | answered | rested =>
      simp [step?, onAttempt, onAnswered, onRested, hphase] at hstep

/-- Nothing is left to do after a failure. -/
theorem failed_step {error : Error} (hphase : start.phase = .failed error)
    (hstep : start.step? event = some (next, commands)) :
    (∀ slot, event.readiness? slot = none) ∧ next.phase = start.phase := by
  cases event with
  | outside outer =>
      simp only [step?, Option.map_eq_some_iff, Prod.mk.injEq] at hstep
      obtain ⟨fleet, -, rfl, -⟩ := hstep
      exact ⟨fun _ => rfl, rfl⟩
  | launched | ready | ended => simp [step?, onLaunched, onReady, onEnded, hphase] at hstep
  | settled | abandoned => simp [step?, onAbandoned, hphase] at hstep
  | attempt | answered | rested =>
      simp [step?, onAttempt, onAnswered, onRested, hphase] at hstep

theorem doomed_undo {error : Error} (hall : none ∉ outcomes)
    (hfirst : firstFailure? outcomes = some error) (start : Bootstrap) :
    (start.undo error).1.phase.Doomed outcomes := by
  unfold undo
  split
  next => exact ⟨hall, hfirst⟩
  next hhandles => exact ⟨hall, hfirst, hhandles⟩

/-- A start that is doomed stays so, where the root signal is not fired and some wait has failed
when all have ended. -/
theorem doomed_step (hdoomed : start.phase.Doomed (tidings size moments))
    (hroot : start.fleet.rootFired = false) (hstep : start.step? event = some (next, commands))
    (hfails : none ∉ tidings size (moments ++ [⟨start, event, commands, next⟩]) →
      ∃ error, firstFailure? (tidings size (moments ++ [⟨start, event, commands, next⟩])) =
        some error) :
    next.phase.Doomed (tidings size (moments ++ [⟨start, event, commands, next⟩])) := by
  cases hphase : start.phase with
  | awaiting current =>
      rw [hphase] at hdoomed
      obtain ⟨rfl, hnone⟩ := hdoomed
      rcases awaiting_step hphase hroot hstep with
        ⟨outer, fleet, rfl, -, rfl, rfl⟩ | ⟨slot, outcome, rfl, hopen, hsettled⟩
      · rw [tidings_silent fun _ => rfl]
        exact hphase ▸ ⟨rfl, hnone⟩
      · rw [tidings_ready rfl hopen] at hfails ⊢
        by_cases hmem : none ∈ (tidings size moments).set slot (some outcome)
        · rw [settleAwaiting_of_mem hmem] at hsettled
          obtain ⟨rfl, -⟩ := Prod.mk.inj hsettled
          exact ⟨rfl, hmem⟩
        · obtain ⟨error, hfirst⟩ := hfails hmem
          rw [settleAwaiting_eq_undo hmem hfirst] at hsettled
          obtain ⟨rfl, -⟩ := Prod.ext_iff.mp hsettled
          exact doomed_undo hmem hfirst _
  | undoing error alive =>
      rw [hphase] at hdoomed
      obtain ⟨hsilent, hnext⟩ := undoing_step hphase hstep
      rw [tidings_silent hsilent]
      rcases hnext with hsame | hfailed | ⟨rest, hrest, hundoing⟩
      · exact (hsame.trans hphase) ▸ hdoomed
      · exact hfailed ▸ ⟨hdoomed.1, hdoomed.2.1⟩
      · exact hundoing ▸ ⟨hdoomed.1, hdoomed.2.1, hrest⟩
  | failed error =>
      obtain ⟨hsilent, hsame⟩ := failed_step hphase hstep
      rw [tidings_silent hsilent, hsame]
      exact hdoomed
  | launching | settling | searching | unwound | started =>
      rw [hphase] at hdoomed
      exact hdoomed.elim

/-! ### A fate for every process -/

/-- In these moments every wait ends as it is fated to, and the root signal is not fired before. For
a process whose wait never ends there is no outcome. -/
structure Fated (fate : Nat → Option (Except Error Unit))
    (moments : List (Moment Bootstrap StartEvent)) : Prop where
  told : ∀ moment ∈ moments, ∀ slot outcome, moment.event = .ready slot outcome →
    fate slot = some outcome
  unfired : ∀ moment ∈ moments, moment.before.fleet.rootFired = false

variable {fate : Nat → Option (Except Error Unit)}

namespace Fated

theorem append {more : List (Moment Bootstrap StartEvent)} (hfated : Fated fate moments)
    (hmore : Fated fate more) : Fated fate (moments ++ more) where
  told moment hmem := (List.mem_append.mp hmem).elim (hfated.told moment) (hmore.told moment)
  unfired moment hmem :=
    (List.mem_append.mp hmem).elim (hfated.unfired moment) (hmore.unfired moment)

theorem of_append {more : List (Moment Bootstrap StartEvent)}
    (hfated : Fated fate (moments ++ more)) : Fated fate moments where
  told moment hmem := hfated.told moment (List.mem_append_left _ hmem)
  unfired moment hmem := hfated.unfired moment (List.mem_append_left _ hmem)

/-- What is told is fated. -/
theorem eq_some_of_told (hfated : Fated fate moments) {outcome : Except Error Unit}
    (htold : Bootstrap.told moments slot = some outcome) : fate slot = some outcome := by
  obtain ⟨moment, hmem, hready⟩ := List.exists_of_findSome?_eq_some htold
  refine hfated.told moment hmem slot outcome ?_
  cases hevent : moment.event with
  | ready other result =>
      rw [hevent, StartEvent.readiness?] at hready
      obtain ⟨rfl, hsame⟩ := Option.ite_none_right_eq_some.mp hready
      rw [Option.some.inj hsame]
  | outside | launched | settled | attempt | answered | rested | abandoned | ended =>
      rw [hevent] at hready
      exact nomatch hready

theorem told_eq_none (hfated : Fated fate moments) (hnever : fate slot = none) :
    Bootstrap.told moments slot = none := by
  cases htold : Bootstrap.told moments slot with
  | none => rfl
  | some outcome => exact nomatch hnever.symm.trans (hfated.eq_some_of_told htold)

/-- Once all waits have ended, all fates are known. -/
theorem tidings_eq (hfated : Fated fate moments) (hall : none ∉ tidings size moments) :
    tidings size moments = (List.range size).map fate := by
  refine List.map_congr_left fun slot hslot => ?_
  cases htold : Bootstrap.told moments slot with
  | none => exact absurd (mem_tidings_iff.mpr ⟨slot, List.mem_range.mp hslot, htold⟩) hall
  | some outcome => exact (hfated.eq_some_of_told htold).symm

end Fated

theorem exists_firstFailure? {error : Error} (hslot : slot < size)
    (hfails : fate slot = some (.error error)) :
    ∃ first, firstFailure? ((List.range size).map fate) = some first := by
  refine Option.isSome_iff_exists.mp (List.findSome?_isSome_iff.mpr ?_)
  exact ⟨fate slot, List.mem_map_of_mem (List.mem_range.mpr hslot), by rw [hfails]; rfl⟩

/-- A start some of whose waits is fated to fail is doomed from the time on when all are
awaited. -/
theorem doomed_course (hwait : waiting.phase = .awaiting (List.replicate size none))
    (hcourse : Course step? waiting moments start) (hfated : Fated fate moments) {error : Error}
    (hslot : slot < size) (hfails : fate slot = some (.error error)) :
    start.phase.Doomed (tidings size moments) := by
  induction hcourse with
  | start =>
      rw [tidings_nil, hwait]
      exact ⟨rfl, List.mem_replicate.mpr ⟨Nat.ne_of_gt (Nat.zero_lt_of_lt hslot), rfl⟩⟩
  | next earlier hstep ih =>
      have hroot := hfated.unfired _ (List.mem_append_right _ List.mem_cons_self)
      refine doomed_step (ih hfated.of_append) hroot hstep fun hall => ?_
      rw [hfated.tidings_eq hall]
      exact exists_firstFailure? hslot hfails

/-! ### While some process is awaited -/

/-- In this moment a start asks nothing of anybody and leaves the files alone. -/
def Idle (moment : Moment Bootstrap StartEvent) : Prop :=
  moment.commands = [] ∧ ((∀ files, moment.event ≠ .outside (.touch files)) →
    moment.after.fleet.files = moment.before.fleet.files)

theorem isAwaiting_undo (start : Bootstrap) (error : Error) :
    (start.undo error).1.phase.isAwaiting = false := by
  unfold undo
  split <;> rfl

theorem idle_outside {fleet : Fleet} {outer : Outside}
    (houtside : start.fleet.outside? outer = some fleet) :
    Idle ⟨start, .outside outer, [], { start with fleet }⟩ := by
  refine ⟨rfl, fun hleft => ?_⟩
  cases outer with
  | time clock =>
      obtain ⟨-, hsame⟩ := Option.ite_none_right_eq_some.mp houtside
      rw [← Option.some.inj hsame]
  | fireRoot =>
      obtain rfl := Option.some.inj houtside
      rfl
  | touch files => exact absurd rfl (hleft files)

/-- Whoever awaits a process did so before, and has done nothing. -/
theorem idle_step (hdoomed : start.phase.Doomed outcomes) (hroot : start.fleet.rootFired = false)
    (hstep : start.step? event = some (next, commands)) (hnext : next.phase.isAwaiting = true) :
    start.phase.isAwaiting = true ∧ Idle ⟨start, event, commands, next⟩ := by
  cases hphase : start.phase with
  | awaiting current =>
      refine ⟨rfl, ?_⟩
      rcases awaiting_step hphase hroot hstep with
        ⟨outer, fleet, rfl, houtside, rfl, rfl⟩ | ⟨slot, outcome, rfl, -, hsettled⟩
      · exact idle_outside houtside
      · rcases Stride.settleAwaiting_cases
          { start with fleet := markReady start.fleet slot outcome }
          (current.set slot (some outcome)) with
          ⟨hopen, -⟩ | ⟨error, hundone⟩ | ⟨-, due, hover⟩
        · obtain ⟨rfl, rfl⟩ := Prod.mk.inj (hopen.symm.trans hsettled)
          exact ⟨rfl, fun _ => (Stride.files_markReady start.fleet slot outcome).1⟩
        · obtain ⟨rfl, -⟩ := Prod.ext_iff.mp (hundone.symm.trans hsettled)
          exact absurd hnext (by simp [isAwaiting_undo])
        · obtain ⟨rfl, -⟩ := Prod.mk.inj (hover.symm.trans hsettled)
          exact absurd hnext Bool.false_ne_true
  | undoing error alive =>
      obtain ⟨-, hsame | hfailed | ⟨rest, -, hundoing⟩⟩ := undoing_step hphase hstep
      · rw [hsame, hphase] at hnext
        exact absurd hnext Bool.false_ne_true
      · rw [hfailed] at hnext
        exact absurd hnext Bool.false_ne_true
      · rw [hundoing] at hnext
        exact absurd hnext Bool.false_ne_true
  | failed error =>
      obtain ⟨-, hsame⟩ := failed_step hphase hstep
      rw [hsame, hphase] at hnext
      exact absurd hnext Bool.false_ne_true
  | launching | settling | searching | unwound | started =>
      rw [hphase] at hdoomed
      exact hdoomed.elim

theorem idle_course (hwait : waiting.phase = .awaiting (List.replicate size none))
    (hcourse : Course step? waiting moments start) (hfated : Fated fate moments) {error : Error}
    (hslot : slot < size) (hfails : fate slot = some (.error error))
    (hawaiting : start.phase.isAwaiting = true) : ∀ moment ∈ moments, Idle moment := by
  induction hcourse with
  | start => exact fun moment hmem => nomatch hmem
  | next earlier hstep ih =>
      have hdoomed := doomed_course hwait earlier hfated.of_append hslot hfails
      have hroot := hfated.unfired _ (List.mem_append_right _ List.mem_cons_self)
      obtain ⟨hbefore, hidle⟩ := idle_step hdoomed hroot hstep hawaiting
      intro moment hmem
      rcases List.mem_append.mp hmem with hmem | hmem
      · exact ih hfated.of_append hbefore moment hmem
      · rw [List.mem_singleton.mp hmem]
        exact hidle

/-! ### When all waits end -/

/-- A start can come from one state to another as it is fated to. -/
def Fares (fate : Nat → Option (Except Error Unit)) (start last : Bootstrap) : Prop :=
  ∃ moments, Course step? start moments last ∧ Fated fate moments ∧
    last.fleet.rootFired = false

namespace Fares

theorem refl (hroot : start.fleet.rootFired = false) : Fares fate start start :=
  ⟨[], .start, ⟨fun _ hmem => (nomatch hmem), fun _ hmem => (nomatch hmem)⟩, hroot⟩

theorem trans {middle last : Bootstrap} (hleft : Fares fate start middle)
    (hright : Fares fate middle last) : Fares fate start last := by
  obtain ⟨early, hearly, hbefore, -⟩ := hleft
  obtain ⟨late, hlate, hafter, hroot⟩ := hright
  exact ⟨early ++ late, hearly.append hlate, hbefore.append hafter, hroot⟩

theorem fated_single (hroot : start.fleet.rootFired = false)
    (htold : ∀ slot outcome, event = .ready slot outcome → fate slot = some outcome) :
    Fated fate [⟨start, event, commands, next⟩] where
  told moment hmem := by
    rw [List.mem_singleton.mp hmem]
    exact htold
  unfired moment hmem := by
    rw [List.mem_singleton.mp hmem]
    exact hroot

theorem of_step? (hstep : start.step? event = some (next, commands))
    (hroot : start.fleet.rootFired = false) (hnext : next.fleet.rootFired = false)
    (htold : ∀ slot outcome, event = .ready slot outcome → fate slot = some outcome) :
    Fares fate start next :=
  ⟨_, .single hstep, fated_single hroot htold, hnext⟩

end Fares

/-- The processes that are being torn down can end, one after the other. -/
theorem exists_failed_of_undoing {error : Error} {alive : List Handle} (hsome : alive ≠ [])
    (hphase : start.phase = .undoing error alive) (hroot : start.fleet.rootFired = false) :
    ∃ last, Fares fate start last ∧ last.phase = .failed error := by
  induction alive generalizing start with
  | nil => exact absurd rfl hsome
  | cons handle rest ih =>
      have hended : start.step? (.ended handle) = start.onEnded handle := rfl
      simp only [onEnded, hphase, List.mem_cons_self, if_true, List.erase_cons_head] at hended
      cases rest with
      | nil => exact ⟨_, .of_step? hended hroot hroot (by simp), rfl⟩
      | cons other rest =>
          let left : Bootstrap := { start with phase := .undoing error (other :: rest) }
          have hleft : left.phase = .undoing error (other :: rest) := rfl
          obtain ⟨last, hfares, hfailed⟩ := ih (List.cons_ne_nil _ _) hleft hroot
          exact ⟨last, (Fares.of_step? hended hroot hroot (by simp)).trans hfares, hfailed⟩

theorem rootFired_settleAwaiting (start : Bootstrap)
    (outcomes : List (Option (Except Error Unit))) :
    (start.settleAwaiting outcomes).1.fleet.rootFired = start.fleet.rootFired := by
  rcases Stride.settleAwaiting_cases start outcomes with
    ⟨hopen, -⟩ | ⟨error, hundone⟩ | ⟨-, due, hover⟩
  · rw [hopen]
  · rw [hundone, undo]
    split <;> rfl
  · rw [hover]

/-- A wait that is going on can end in any way. -/
theorem exists_step_of_untold (hphase : start.phase = .awaiting (tidings size moments))
    (hslot : slot < size) (huntold : told moments slot = none) (outcome : Except Error Unit) :
    ∃ next commands, start.step? (.ready slot outcome) = some (next, commands) ∧
      next.fleet.rootFired = start.fleet.rootFired := by
  have hopen : (tidings size moments)[slot]? = some none := by
    rw [getElem?_tidings hslot, huntold]
  have hstep : start.step? (.ready slot outcome) = some
      (settleAwaiting { start with fleet := markReady start.fleet slot outcome }
        ((tidings size moments).set slot (some outcome))) := by
    simp only [step?, onReady, hphase, hopen]
  refine ⟨_, _, hstep, (rootFired_settleAwaiting ..).trans ?_⟩
  cases outcome <;> rfl

theorem phase_of_untold (hdoomed : start.phase.Doomed (tidings size moments))
    (hnone : none ∈ tidings size moments) : start.phase = .awaiting (tidings size moments) := by
  have hawaiting := hdoomed.isAwaiting_iff.mpr hnone
  cases hphase : start.phase with
  | awaiting current =>
      rw [hphase] at hdoomed
      rw [hdoomed.1]
  | launching | settling | searching | undoing | failed | unwound | started =>
      rw [hphase] at hawaiting
      exact absurd hawaiting Bool.false_ne_true

/-- A doomed start that has heard of every process fails. -/
theorem exists_failed_of_told (hdoomed : start.phase.Doomed (tidings size moments))
    (hroot : start.fleet.rootFired = false) (hall : none ∉ tidings size moments) :
    ∃ last error, Fares fate start last ∧ last.phase = .failed error := by
  cases hphase : start.phase with
  | awaiting current =>
      rw [hphase] at hdoomed
      exact absurd hdoomed.2 hall
  | undoing error alive =>
      rw [hphase] at hdoomed
      obtain ⟨last, hfares, hfailed⟩ := exists_failed_of_undoing hdoomed.2.2 hphase hroot
      exact ⟨last, error, hfares, hfailed⟩
  | failed error => exact ⟨start, error, .refl hroot, hphase⟩
  | launching | settling | searching | unwound | started =>
      rw [hphase] at hdoomed
      exact hdoomed.elim

/-- Where every wait ends, a doomed start fails. -/
theorem exists_failed_of_doomed (hdoomed : start.phase.Doomed (tidings size moments))
    (hfated : Fated fate moments) (hroot : start.fleet.rootFired = false)
    (hends : ∀ slot < size, fate slot ≠ none) {error : Error} (hslot : slot < size)
    (hfails : fate slot = some (.error error)) :
    ∃ last error, Fares fate start last ∧ last.phase = .failed error := by
  -- Every wait that ends is one less to end.
  induction hcount : (tidings size moments).count none generalizing start moments with
  | zero =>
      exact exists_failed_of_told hdoomed hroot (List.count_eq_zero.mp hcount)
  | succ count ih =>
      have hnone : none ∈ tidings size moments := List.count_pos_iff.mp (by omega)
      have hphase := phase_of_untold hdoomed hnone
      obtain ⟨other, hother, huntold⟩ := mem_tidings_iff.mp hnone
      obtain ⟨outcome, houtcome⟩ := Option.ne_none_iff_exists'.mp (hends other hother)
      obtain ⟨next, commands, hstep, hsame⟩ := exists_step_of_untold hphase hother huntold outcome
      have htold : ∀ slot result, StartEvent.ready other outcome = .ready slot result →
          fate slot = some result := by
        intro slot result hevent
        obtain ⟨rfl, rfl⟩ := StartEvent.ready.inj hevent
        exact houtcome
      have hlast : Fated fate [⟨start, .ready other outcome, commands, next⟩] :=
        Fares.fated_single hroot htold
      have hnext := hfated.append hlast
      have hopen : (tidings size moments)[other]? = some none := by
        rw [getElem?_tidings hother, huntold]
      have hset : tidings size (moments ++ [⟨start, .ready other outcome, commands, next⟩]) =
          (tidings size moments).set other (some outcome) := tidings_ready rfl hopen
      have hless : ((tidings size moments).set other (some outcome)).count none = count := by
        obtain ⟨hlt, hget⟩ := List.getElem?_eq_some_iff.mp hopen
        rw [List.count_set hlt, hget, hcount]
        rfl
      obtain ⟨last, cause, hfares, hfailed⟩ := ih
        (doomed_step hdoomed hroot hstep fun hall => by
          rw [hnext.tidings_eq hall]
          exact exists_firstFailure? hslot hfails)
        hnext (hsame.trans hroot) (hset ▸ hless)
      exact ⟨last, cause, (Fares.of_step? hstep hroot (hsame.trans hroot) htold).trans hfares,
        hfailed⟩

/-! ### A start with a failing process -/

/-- The moment in which a start fails leaves no directory, if it can be removed. -/
theorem absent_of_failed {settings : FleetSettings} {token : String} {files after : Files}
    {clock : Clock} {rootFired : Bool} {first : Bootstrap} {opening : List Command}
    (hbegin : Bootstrap.begin settings token files clock rootFired =
      (after, .ok (first, opening))) (hcourse : Course step? first moments start)
    (hmem : moment ∈ moments) {error : Error} (hfailed : moment.after.phase = .failed error)
    (hup : ∀ earlier, moment.before.phase ≠ .failed earlier)
    (hremoved : (moment.before.fleet.files.removeDirectory settings.fleet.rootDir).2 = .ok ()) :
    moment.after.fleet.files.Absent settings.fleet.rootDir := by
  obtain ⟨early, late, -, hearly, hstep, -⟩ := hcourse.cut hmem
  have hroot := ((Charted.begin hbegin).course (Kept.begin hbegin) hearly).root
  rw [(stride_of_step? hstep).files_of_failed hup hfailed, hroot]
  exact Files.absent_removeDirectory hremoved

open EngineNote in
/-- A failure to become ready fails the start once every wait has ended. From the time on when all
processes are awaited, whatever becomes of each of them, with one that is fated to fail and the root
signal never fired: the start awaits processes exactly as long as some wait has not ended, and does
nothing meanwhile; if one wait never ends, that is for ever. Behind the last wait the start is on
its way down with the first failure in slot order, and where every wait ends, it can always get
there. When it has failed, all processes have been torn down, each step once and in order, and the
moment in which it fails leaves no directory if it can be removed. -/
theorem readiness_failure_fails_start_once_every_wait_ends {settings : FleetSettings}
    {token : String} {files after : Files} {clock : Clock} {rootFired : Bool} {first : Bootstrap}
    {opening : List Command} {early : List (Moment Bootstrap StartEvent)}
    (hbegin : Bootstrap.begin settings token files clock rootFired =
      (after, .ok (first, opening)))
    (hearly : Course step? first early waiting)
    (hwait : waiting.phase = .awaiting (List.replicate settings.fleet.size.toNat none))
    (hcourse : Course step? waiting moments start) (hfated : Fated fate moments)
    (hroot : start.fleet.rootFired = false) {error : Error}
    (hslot : slot < settings.fleet.size.toNat) (hfails : fate slot = some (.error error)) :
    (start.phase.isAwaiting = true ↔
      ∃ other < settings.fleet.size.toNat, told moments other = none) ∧
    (start.phase.isAwaiting = true → ∀ moment ∈ moments, Idle moment) ∧
    ((∃ other < settings.fleet.size.toNat, fate other = none) →
      start.phase.isAwaiting = true) ∧
    (start.phase.isAwaiting = false → ∃ cause, start.phase.cause? = some cause ∧
      firstFailure? ((List.range settings.fleet.size.toNat).map fate) = some cause) ∧
    ((∀ other < settings.fleet.size.toNat, fate other ≠ none) →
      ∃ last cause, Fares fate start last ∧ last.phase = .failed cause) ∧
    (∀ cause, start.phase = .failed cause → ∀ slot handle,
      .handed slot handle ∈ ofCommands opening ++ Bootstrap.notes (early ++ moments) →
      about handle (ofCommands opening ++ Bootstrap.notes (early ++ moments)) =
        gone slot handle) ∧
    ∀ moment ∈ moments, ∀ cause, moment.after.phase = .failed cause →
      (∀ earlier, moment.before.phase ≠ .failed earlier) →
      (moment.before.fleet.files.removeDirectory settings.fleet.rootDir).2 = .ok () →
      moment.after.fleet.files.Absent settings.fleet.rootDir := by
  have hdoomed := doomed_course hwait hcourse hfated hslot hfails
  have hwhole := hearly.append hcourse
  have huntold := hdoomed.isAwaiting_iff.trans mem_tidings_iff
  refine ⟨huntold, idle_course hwait hcourse hfated hslot hfails, ?_, ?_, ?_, ?_, ?_⟩
  · rintro ⟨other, hother, hnever⟩
    exact huntold.mpr ⟨other, hother, hfated.told_eq_none hnever⟩
  · intro hover
    have hall : none ∉ tidings settings.fleet.size.toNat moments := fun hnone =>
      Bool.false_ne_true (hover.symm.trans (hdoomed.isAwaiting_iff.mpr hnone))
    obtain ⟨hcause, hsome⟩ := hdoomed.cause?_eq hall
    obtain ⟨cause, hfirst⟩ := Option.isSome_iff_exists.mp hsome
    exact ⟨cause, hcause.trans hfirst, hfated.tidings_eq hall ▸ hfirst⟩
  · exact fun hends => exists_failed_of_doomed hdoomed hfated hroot hends hslot hfails
  · intro cause hfailed other handle
    exact ((Kept.begin hbegin).course hwhole).gone hfailed
  · intro moment hmem cause hfailed hup hremoved
    exact absent_of_failed hbegin hwhole (List.mem_append_right _ hmem) hfailed hup hremoved

/-- The smallest fleet with two members comes to await both. -/
theorem exists_pair_waiting :
    ∃ after first opening early waiting,
      Bootstrap.begin (pairSettings "localhost") "pair" {} {} false =
        (after, .ok (first, opening)) ∧
      Course step? first early waiting ∧ waiting.phase = .awaiting (List.replicate 2 none) ∧
      waiting.fleet.rootFired = false := by
  have hvalid : (pairSettings "localhost").validate = .ok () := by decide
  obtain ⟨configs, hconfigs⟩ := Layout.exists_memberConfigs hvalid "pair"
  have hlength : configs.length = 2 := Layout.length_memberConfigs hconfigs
  obtain ⟨config, other, rfl⟩ := List.length_eq_two.mp hlength
  obtain ⟨blank, hbegin, hhandles, hroot, -⟩ :=
    begin_eq hvalid hconfigs prepareDirectory_solo {} false
  have hlaunching : (blank.launchNext [config, other]).1.phase = .launching [config, other] := rfl
  obtain ⟨early, waiting, hearly, -, hwait, hsize, hwaitRoot⟩ :=
    exists_awaiting [other] hlaunching
  have htwo : waiting.handles.length = 2 := by
    rw [hsize]
    simp [launchNext, hhandles]
  exact ⟨_, _, _, early, waiting, hbegin, hearly, htwo ▸ hwait, hwaitRoot.trans hroot⟩

/-- One of two members fails to become ready. The other one may become ready or not. -/
def oneFails (outcome : Option (Except Error Unit)) (slot : Nat) : Option (Except Error Unit) :=
  if slot = 0 then some (.error .cancelled) else outcome

/-- With a failing member and a ready one the start fails. -/
theorem pair_start_fails_with_one_member :
    ∃ waiting last error, waiting.phase = .awaiting (List.replicate 2 none) ∧
      Fares (oneFails (some (.ok ()))) waiting last ∧ last.phase = .failed error := by
  obtain ⟨after, first, opening, early, waiting, hbegin, hearly, hwait, hroot⟩ :=
    exists_pair_waiting
  have hfated : Fated (oneFails (some (.ok ()))) [] :=
    ⟨fun _ hmem => (nomatch hmem), fun _ hmem => (nomatch hmem)⟩
  have hslot : 0 < (pairSettings "localhost").fleet.size.toNat := by decide
  have hfails : oneFails (some (.ok ())) 0 = some (.error .cancelled) := rfl
  obtain ⟨-, -, -, -, hends, -, -⟩ := readiness_failure_fails_start_once_every_wait_ends hbegin
    hearly hwait .start hfated hroot hslot hfails
  have hall : ∀ other < (pairSettings "localhost").fleet.size.toNat,
      oneFails (some (.ok ())) other ≠ none := by
    intro other _
    unfold oneFails
    split <;> simp
  obtain ⟨last, cause, hfares, hfailed⟩ := hends hall
  exact ⟨waiting, last, cause, hwait, hfares, hfailed⟩

/-- With a failing member and one that is awaited for ever the start does not fail. -/
theorem not_every_readiness_failure_fails_start :
    ¬ ∀ (settings : FleetSettings) (token : String) (files after : Files) (clock : Clock)
        (first waiting : Bootstrap) (opening : List Command)
        (early : List (Moment Bootstrap StartEvent))
        (fate : Nat → Option (Except Error Unit)) (slot : Nat) (error : Error),
      Bootstrap.begin settings token files clock false = (after, .ok (first, opening)) →
      Course step? first early waiting →
      waiting.phase = .awaiting (List.replicate settings.fleet.size.toNat none) →
      waiting.fleet.rootFired = false → slot < settings.fleet.size.toNat →
      fate slot = some (.error error) →
      ∃ last cause, Fares fate waiting last ∧ last.phase = .failed cause := by
  intro hevery
  obtain ⟨after, first, opening, early, waiting, hbegin, hearly, hwait, hroot⟩ :=
    exists_pair_waiting
  have hslot : 0 < (pairSettings "localhost").fleet.size.toNat := by decide
  obtain ⟨last, cause, ⟨moments, hcourse, hfated, -⟩, hfailed⟩ := hevery _ _ _ _ _ _ _ _ _
    (oneFails none) 0 .cancelled hbegin hearly hwait hroot hslot rfl
  have hdoomed := doomed_course hwait hcourse hfated hslot rfl
  rw [hfailed] at hdoomed
  -- Nothing is ever told of the second member.
  exact hdoomed.1 (mem_tidings_iff.mpr ⟨1, by decide, hfated.told_eq_none rfl⟩)

end Bootstrap

end FleetControl
