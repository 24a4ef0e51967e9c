import FleetControl.Proofs.Fleet.Start
import FleetControl.Proofs.Fleet.Step

/-!
# Custody of the processes

While a fleet runs, a process is in its slot, or in the custody of the one call that is under way.
The ledger follows every turn of the calls, and nobody else touches a process.
-/

namespace FleetControl

open EngineNote

theorem Fleet.process?_eq_some_iff {fleet : Fleet} {slot : Nat} {handle : Handle} :
    fleet.process? slot = some handle ↔ fleet.slots[slot]? = some (some handle) := by
  simp [process?, Option.join_eq_some_iff]

theorem Fleet.process?_eq_none_iff {fleet : Fleet} {slot : Nat} :
    fleet.process? slot = none ↔ ∀ handle, fleet.slots[slot]? ≠ some (some handle) := by
  simp [Option.eq_none_iff_forall_ne_some, process?_eq_some_iff]

theorem Fleet.process?_release (fleet : Fleet) (slot other : Nat) (kind : TransitionKind) :
    (fleet.release slot kind).process? other =
      if other = slot then none else fleet.process? other := by
  rw [process?, show (fleet.release slot kind).slots = fleet.slots.set slot none from rfl,
    List.getElem?_set]
  by_cases hother : slot = other
  · subst hother
    simp only [if_true]
    split <;> rfl
  · rw [if_neg hother, if_neg (Ne.symm hother)]
    rfl

/-- The process of a slot is taken out and torn down. -/
theorem Ledger.release {notes : List EngineNote} {fleet : Fleet} {ending : List Handle}
    {slot : Nat} {handle : Handle}
    (ledger : Ledger notes fleet.launches fleet.slots none ending)
    (hprocess : fleet.process? slot = some handle) (kind : TransitionKind) :
    Ledger (notes ++ ofCommands (teardown slot handle)) (fleet.release slot kind).launches
      (fleet.release slot kind).slots none (ending ++ [handle]) := by
  have hslot := Fleet.process?_eq_some_iff.mp hprocess
  have hempty : ∀ process, (fleet.slots.set slot none)[slot]? ≠ some (some process) := by
    intro process
    simp [List.getElem?_set]
  have hother : ∀ other, other ≠ slot → (fleet.slots.set slot none)[other]? = fleet.slots[other]? :=
    fun other hne => List.getElem?_set_ne hne.symm
  exact (ledger.take hslot hempty hother).tear

namespace Call

/-- The process that a call holds outside of the slots, and the slot it is for. -/
def loose? (call : Call) : Option (Nat × Handle) :=
  match call.operation, call.phase with
  | .restart slot, .awaiting handle => some (slot, handle)
  | _, _ => none

/-- The processes whose end a call waits for. -/
def ends (call : Call) : List Handle :=
  match call.phase with
  | .ending handle _ => [handle]
  | .emptying _ alive => alive
  | _ => []

/-- What a call has seen of the slots since it took the lock: the slot of a restart is empty, and a
shutdown has left no process behind. -/
def Sees (call : Call) (fleet : Fleet) : Prop :=
  match call.operation, call.phase with
  | .restart slot, .cooling _ => fleet.process? slot = none
  | .restart slot, .launching => fleet.process? slot = none
  | .shutdown, .emptying left _ => ∀ slot handle, fleet.process? slot = some handle → slot ∈ left
  | _, _ => True

end Call

/-- The ledger of a running fleet, after some notes. -/
structure Booked (notes : List EngineNote) (fleet : Fleet) (underway : Option Call) : Prop where
  ledger : Ledger notes fleet.launches fleet.slots (underway.bind Call.loose?)
    (underway.elim [] Call.ends)
  sees : ∀ call, underway = some call → call.Sees fleet
  size : fleet.slots.length = fleet.members.length

namespace Booked

variable {notes heard : List EngineNote} {fleet next : Fleet} {underway later : Option Call}
  {commands : List Command} {mark : Option Mark}

/-- Every turn of the calls is followed by the ledger. -/
theorem turn (booked : Booked notes fleet underway)
    (hturn : Turn fleet underway heard commands mark next later) :
    Booked (notes ++ heard ++ ofCommands commands) next later := by
  have hsilent : notes ++ [] ++ ofCommands [] = notes := by simp [ofCommands]
  cases hturn with
  | rest => exact hsilent.symm ▸ booked
  | signal => exact hsilent.symm ▸ ⟨booked.ledger, booked.sees, booked.size⟩
  | coolStop =>
      refine hsilent.symm ▸ ⟨booked.ledger, ?_, booked.size⟩
      rintro _ ⟨⟩
      trivial
  | coolRestart hopen hprocess =>
      refine hsilent.symm ▸ ⟨booked.ledger, ?_, booked.size⟩
      rintro _ ⟨⟩
      exact hprocess
  | empty =>
      refine hsilent.symm ▸ ⟨booked.ledger, ?_, booked.size⟩
      rintro _ ⟨⟩ slot handle hprocess
      exact List.mem_range.mpr
        (List.getElem?_eq_some_iff.mp (Fleet.process?_eq_some_iff.mp hprocess)).1
  | @stop id slot due handle hdue hprocess =>
      rw [List.append_nil]
      refine ⟨booked.ledger.release hprocess .stop, ?_, ?_⟩
      · rintro _ ⟨⟩
        trivial
      · rw [Fleet.size_release, ← booked.size]
        exact List.length_set ..
  | vanish => exact hsilent.symm ▸ ⟨booked.ledger, by simp, booked.size⟩
  | @launch id slot due member hdue hmember =>
      -- The restart has seen the slot empty, and has held the lock ever since.
      have hprocess : fleet.process? slot = none := booked.sees _ rfl
      rw [List.append_nil]
      refine ⟨booked.ledger.ask (Fleet.process?_eq_none_iff.mp hprocess), ?_, booked.size⟩
      rintro _ ⟨⟩
      exact hprocess
  | refuse => exact hsilent.symm ▸ ⟨booked.ledger, by simp, booked.size⟩
  | @hand id slot config =>
      have hprocess : fleet.process? slot = none := booked.sees _ rfl
      have hasked : ofCommands [.awaitReady slot fleet.launches] = [] := rfl
      rw [hasked, List.append_nil]
      refine ⟨booked.ledger.hand (Fleet.process?_eq_none_iff.mp hprocess), ?_, ?_⟩
      · rintro _ ⟨⟩
        trivial
      · exact booked.size.trans (fleet.size_changeMember slot (·.setConfig config)).symm
  | @giveUp id slot handle error =>
      rw [List.append_nil]
      refine ⟨booked.ledger.tear, ?_, booked.size⟩
      rintro _ ⟨⟩
      trivial
  | @ready id slot handle hslot =>
      have hplace : (fleet.slots.set slot (some handle))[slot]? = some (some handle) :=
        List.getElem?_set_self (booked.size ▸ hslot)
      have hother : ∀ other, other ≠ slot →
          (fleet.slots.set slot (some handle))[other]? = fleet.slots[other]? :=
        fun other hne => List.getElem?_set_ne hne.symm
      refine hsilent.symm ▸ ⟨booked.ledger.place hplace hother, by simp, ?_⟩
      rw [Fleet.size_occupy, ← booked.size]
      exact List.length_set ..
  | @ended id operation handle result =>
      have hmem : handle ∈ [handle] := List.mem_singleton.mpr rfl
      have hloose : Call.loose? ⟨id, operation, .ending handle result⟩ = none := by
        cases operation <;> rfl
      have hledger : Ledger notes fleet.launches fleet.slots none [handle] := hloose ▸ booked.ledger
      have hnone : [handle].erase handle = [] := by simp
      have hsilence : ofCommands [] = [] := rfl
      rw [hsilence, List.append_nil]
      exact ⟨hnone ▸ hledger.finish hmem, by simp, booked.size⟩
  | @pass id slot left alive hprocess =>
      refine hsilent.symm ▸ ⟨booked.ledger, ?_, booked.size⟩
      rintro _ ⟨⟩ other handle hother
      rcases List.mem_cons.mp (booked.sees _ rfl other handle hother) with rfl | hleft
      · simp [hprocess] at hother
      · exact hleft
  | @clear id slot left alive handle hprocess =>
      rw [List.append_nil]
      refine ⟨booked.ledger.release hprocess .shutdown, ?_, ?_⟩
      · rintro _ ⟨⟩ other process hother
        rw [Fleet.process?_release] at hother
        split at hother
        next => simp at hother
        next hne =>
          exact (List.mem_cons.mp (booked.sees _ rfl other process hother)).resolve_left hne
      · rw [Fleet.size_release, ← booked.size]
        exact List.length_set ..
  | @clearEnded id left alive handle halive =>
      have hsilence : ofCommands [] = [] := rfl
      rw [hsilence, List.append_nil]
      have hsees : Call.Sees ⟨id, .shutdown, .emptying left alive⟩ fleet := booked.sees _ rfl
      refine ⟨booked.ledger.finish halive, ?_, booked.size⟩
      rintro _ ⟨⟩
      exact hsees
  | cleared => exact hsilent.symm ▸ ⟨booked.ledger, by simp, booked.size⟩

/-- Nobody but the calls touches a process. -/
theorem aside (booked : Booked notes fleet underway) (haside : fleet.Aside next) :
    Booked notes next underway := by
  have hprocess : ∀ slot, next.process? slot = fleet.process? slot := by
    intro slot
    rw [Fleet.process?, haside.slots, Fleet.process?]
  refine ⟨haside.launches ▸ haside.slots ▸ booked.ledger, fun call hcall => ?_, ?_⟩
  · have hsees := booked.sees call hcall
    unfold Call.Sees at hsees ⊢
    simpa only [hprocess] using hsees
  · rw [haside.slots, haside.size, booked.size]

end Booked

/-- All that passes between a running fleet and the engine. -/
def System.notes (moments : List (Moment System Event)) : List EngineNote :=
  moments.flatMap fun moment => moment.before.heard moment.event ++ ofCommands moment.commands

/-- Every step of a running fleet is followed by the ledger. -/
theorem Booked.step {notes : List EngineNote} {system next : System} {event : Event}
    {commands : List Command} (booked : Booked notes system.fleet system.underway?)
    (hstep : system.Step event commands next) :
    Booked (notes ++ (system.heard event ++ ofCommands commands)) next.fleet
      next.underway? := by
  cases hstep with
  | turn hturn => exact List.append_assoc notes .. ▸ booked.turn hturn
  | move hmove _ hunderway hheard =>
      have hsilent : ofCommands commands = [] := by
        rcases hmove.commands_eq with rfl | ⟨slot, config, rfl⟩ <;> rfl
      rw [hheard, hsilent, hunderway, List.append_nil, List.append_nil]
      exact booked.aside hmove.aside
  | outside houtside hevent hcommands _ hunderway =>
      subst hevent hcommands
      rw [hunderway]
      simpa [System.heard, Calling.heard, ofCommands] using booked.aside (.outside houtside)

/-- A completed start hands its ledger over. -/
theorem Bootstrap.Kept.booked {interval : Nanos} {notes : List EngineNote} {start : Bootstrap}
    (kept : Kept interval notes start) (hstarted : start.phase = .started) :
    Booked notes start.fleet none := by
  have hlive : start.phase.isLive = true := by rw [hstarted]; rfl
  have hknows : StartPhase.Knows start.fleet start.handles .started := hstarted ▸ kept.knows
  refine ⟨?_, by simp, ?_⟩
  · rw [hknows.2]
    exact kept.liveLedger hlive
  · rw [hknows.2, kept.fledgling.size_eq]
    exact List.length_map ..

end FleetControl
