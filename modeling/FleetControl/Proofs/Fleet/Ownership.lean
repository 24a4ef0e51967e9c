import FleetControl.Proofs.Fleet.Completion
import FleetControl.Proofs.Fleet.Shutdown

/-!
# The books of a running fleet

From the completion of its start on, the calls to a fleet keep the ledger of its processes. While no
call is under way every process is in its slot or has been torn down completely, and once the first
shutdown is finished none is left and none is launched.
-/

namespace FleetControl

open EngineNote

/-- The books of a running fleet are kept, after some notes. -/
structure System.Sound (notes : List EngineNote) (system : System) : Prop where
  orderly : system.Orderly
  booked : Booked notes system.fleet system.underway?
  shutting : system.Shutting

namespace System.Sound

variable {notes : List EngineNote} {system last : System}

theorem course (sound : system.Sound notes) {moments : List (Moment System Event)}
    (hcourse : Course System.step? system moments last) :
    last.Sound (notes ++ System.notes moments) := by
  induction hcourse with
  | start => simpa [System.notes] using sound
  | next _ hlast ih =>
      obtain ⟨horderly, hstep⟩ := step_of_step? ih.orderly hlast
      refine ⟨horderly, ?_, ih.shutting.step ih.orderly ih.booked hstep⟩
      simpa [System.notes] using ih.booked.step hstep

/-- While no call is under way, every process is owned or gone. -/
theorem settled (sound : system.Sound notes) (hidle : system.underway? = none) {slot : Nat}
    {handle : Handle} (hhanded : .handed slot handle ∈ notes) :
    Owned notes system.fleet.slots slot handle ∨ Released notes system.fleet.slots slot handle := by
  have hledger := sound.booked.ledger
  rw [hidle] at hledger
  exact hledger.settled hhanded

/-- In a sealed fleet every process is gone. -/
theorem released (sound : system.Sound notes) (closed : Sealed system.fleet system.underway?)
    {slot : Nat} {handle : Handle} (hhanded : .handed slot handle ∈ notes) :
    Released notes system.fleet.slots slot handle := by
  have hledger := sound.booked.ledger
  have hloose : system.underway?.bind Call.loose? = none := by
    cases hunderway : system.underway? with
    | none => rfl
    | some call =>
        obtain ⟨id, operation, phase⟩ := call
        cases operation with
        | restart slot => exact absurd rfl ((closed.idle _ hunderway).2 slot)
        | stop slot => rfl
        | shutdown => rfl
  have hending : system.underway?.elim [] Call.ends = [] := by
    cases hunderway : system.underway? with
    | none => rfl
    | some call => exact (closed.idle call hunderway).1
  rw [hloose, hending] at hledger
  exact hledger.released (fun slot => Fleet.process?_eq_none_iff.mp (closed.empty slot)) hhanded

end System.Sound

/-- Nothing is launched any more in a sealed fleet. -/
theorem Sealed.course {first last : System} {moments : List (Moment System Event)}
    (closed : Sealed first.fleet first.underway?) (orderly : first.Orderly)
    (hcourse : Course System.step? first moments last) (slot : Nat) :
    .asked slot ∉ System.notes moments := by
  suffices hafter : last.Orderly ∧ Sealed last.fleet last.underway? ∧
      .asked slot ∉ System.notes moments from hafter.2.2
  induction hcourse with
  | start => exact ⟨orderly, closed, by simp [System.notes]⟩
  | next _ hlast ih =>
      obtain ⟨horderly, hsealed, hasked⟩ := ih
      obtain ⟨hnext, hstep⟩ := System.step_of_step? horderly hlast
      obtain ⟨hafter, hsilent⟩ := hsealed.step hstep
      refine ⟨hnext, hafter, ?_⟩
      simpa [System.notes] using And.intro hasked (by simpa using hsilent slot)

/-- A completed start is sound. -/
theorem Bootstrap.Kept.sound {interval : Nanos} {notes : List EngineNote} {start : Bootstrap}
    (kept : Kept interval notes start) (hstarted : start.phase = .started) (tick : Nanos) :
    (System.ofStart start.fleet tick).Sound notes where
  orderly := System.orderly_ofStart ..
  booked := kept.booked hstarted
  shutting := by
    refine ⟨kept.fledgling.isOpen, ?_⟩
    rintro ⟨call, result, hclosing, -⟩
    simp [System.calling, System.ofStart, Calling.closing?] at hclosing

/-- A failed start has torn down everything it launched. -/
theorem Bootstrap.Kept.gone {interval : Nanos} {notes : List EngineNote} {start : Bootstrap}
    {error : Error} (kept : Kept interval notes start) (hfailed : start.phase = .failed error)
    {slot : Nat} {handle : Handle} (hhanded : .handed slot handle ∈ notes) :
    about handle notes = EngineNote.gone slot handle := by
  have hempty : ∀ (slot : Nat) (handle : Handle), start.seats[slot]? ≠ some (some handle) := by
    intro slot handle
    rw [Bootstrap.seats, hfailed, if_neg (by simp [StartPhase.isLive]), List.getElem?_replicate]
    split <;> simp
  have hledger := kept.ledger
  rw [hfailed] at hledger
  exact (hledger.released hempty hhanded).1

end FleetControl
