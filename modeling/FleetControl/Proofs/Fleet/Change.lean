import FleetControl.Proofs.Fleet.Lock

/-!
# How the calls change

In every step of the calls one is made, or one goes into another phase. Of the shutdowns only the
first one has anything to do, and it is finished only when nothing is left.
-/

namespace FleetControl

namespace Calling

variable {calling next : Calling} {event : Event} {id : Nat}

/-- The first shutdown that was called. -/
def closing? (calling : Calling) : Option Call :=
  calling.calls.find? (·.operation = .shutdown)

/-- The first shutdown is finished. -/
def Closed (calling : Calling) : Prop :=
  ∃ call result, calling.closing? = some call ∧ call.phase = .finished result

theorem closing?_setPhase (calling : Calling) (id : Nat) (phase : CallPhase) :
    (calling.setPhase id phase).closing? =
      calling.closing?.map fun call => if call.id = id then { call with phase } else call := by
  have hsame : ((fun call : Call => decide (call.operation = .shutdown)) ∘ fun call =>
      if call.id = id then { call with phase } else call) =
        fun call => decide (call.operation = .shutdown) := by
    funext call
    simp only [Function.comp]
    split <;> rfl
  rw [closing?, setPhase, List.find?_map, hsame]
  rfl

/-- A shutdown that is called first waits for the monitor; any other one has nothing to do. -/
theorem closing?_make (calling : Calling) (operation : Operation) :
    (calling.make operation).closing? =
      calling.closing?.or
        (if operation = .shutdown then
          some ⟨calling.made, .shutdown,
            if calling.fleet.shutDown then .finished (.ok ()) else .draining⟩
        else none) := by
  cases operation with
  | stop slot =>
      unfold make
      dsimp only
      split <;> simp [closing?]
  | restart slot =>
      unfold make
      dsimp only
      split <;> simp [closing?]
  | shutdown =>
      unfold make
      dsimp only
      split
      next => simp [closing?]
      next => simp [closing?]

theorem shutDown_make (calling : Calling) (operation : Operation) :
    (calling.make operation).fleet.shutDown =
      (calling.fleet.shutDown || decide (operation = .shutdown)) := by
  cases operation with
  | stop slot =>
      unfold make
      dsimp only
      split <;> simp
  | restart slot =>
      unfold make
      dsimp only
      split <;> simp
  | shutdown =>
      unfold make
      dsimp only
      split
      next hshut => simp [hshut]
      next => simp

/-- A call goes into another phase, and a shutdown is finished only when nothing is left to do but
to remove the directory. -/
structure Shift (calling next : Calling) (call : Call) (phase : CallPhase) : Prop where
  found : call ∈ calling.calls
  calls : next.calls = (calling.setPhase call.id phase).calls
  shutDown : next.fleet.shutDown = calling.fleet.shutDown
  last : call.operation = .shutdown → ∀ result, phase = .finished result →
    call.phase = .emptying [] [] ∧
      (next.fleet.files, result) = calling.fleet.files.removeDirectory calling.fleet.rootDir

theorem Shift.closing? {call : Call} {phase : CallPhase} (shift : Shift calling next call phase) :
    next.closing? =
      calling.closing?.map fun other =>
        if other.id = call.id then { other with phase } else other := by
  rw [← closing?_setPhase, Calling.closing?, shift.calls, Calling.closing?]

/-- A shift finishes the first shutdown only when the last process has ended. -/
theorem Shift.closed {call : Call} {phase : CallPhase} (shift : Shift calling next call phase)
    (orderly : calling.Orderly) (hclosed : next.Closed) :
    calling.Closed ∨ ∃ id, calling.underway? = some ⟨id, .shutdown, .emptying [] []⟩ := by
  obtain ⟨closing, result, hclosing, hfinished⟩ := hclosed
  rw [shift.closing?, Option.map_eq_some_iff] at hclosing
  obtain ⟨first, hfirst, rfl⟩ := hclosing
  split at hfinished
  next hid =>
    have hmem : first ∈ calling.calls := List.mem_of_find?_eq_some hfirst
    have hoperation : first.operation = .shutdown := by simpa using List.find?_some hfirst
    obtain rfl := orderly.eq_of_id_eq hmem shift.found hid
    have hphase := (shift.last hoperation result hfinished).1
    right
    refine ⟨first.id, ?_⟩
    rw [orderly.underway?_eq hmem (by rw [hphase]; rfl), ← hoperation, ← hphase]
  next => exact .inl ⟨first, result, hfirst, hfinished⟩

/-- How the calls change with an event. -/
inductive Change (calling : Calling) (event : Event) (next : Calling) : Prop where
  | made {operation : Operation} (hevent : event = .call operation)
      (hnext : next = calling.make operation)
  | moved {call : Call} {phase : CallPhase} (shift : Shift calling next call phase)

/-- A call takes the lock. -/
theorem change_of_onLock {call : Call} (hmem : call ∈ calling.calls) :
    Change calling event (calling.onLock call) := by
  unfold onLock
  dsimp only
  split
  next hoperation =>
    split
    next => exact .moved ⟨hmem, rfl, rfl, by simp [hoperation]⟩
    next => exact .moved ⟨hmem, rfl, rfl, by simp⟩
  next hoperation =>
    split
    next => exact .moved ⟨hmem, rfl, rfl, by simp [hoperation]⟩
    next =>
      split
      next => exact .moved ⟨hmem, rfl, rfl, by simp [hoperation]⟩
      next => exact .moved ⟨hmem, rfl, rfl, by simp⟩
  next => exact .moved ⟨hmem, rfl, rfl, by simp⟩

/-- A cooldown is over. -/
theorem change_of_onCooled {call : Call} {due : Nanos} (hmem : call ∈ calling.calls)
    (hfits : call.Fits calling.fleet.members.length) (hphase : call.phase = .cooling due)
    {commands : List Command} (hstep : calling.onCooled call = (next, commands)) :
    Change calling event next := by
  unfold onCooled at hstep
  dsimp only at hstep
  split at hstep
  next hoperation =>
    split at hstep
    next =>
      obtain ⟨rfl, rfl⟩ := Prod.mk.inj hstep
      exact .moved ⟨hmem, rfl, rfl, by simp [hoperation]⟩
    next =>
      obtain ⟨rfl, rfl⟩ := Prod.mk.inj hstep
      exact .moved ⟨hmem, rfl, rfl, by simp⟩
  next hoperation =>
    split at hstep
    next =>
      obtain ⟨rfl, rfl⟩ := Prod.mk.inj hstep
      exact .moved ⟨hmem, rfl, rfl, by simp [hoperation]⟩
    next =>
      obtain ⟨rfl, rfl⟩ := Prod.mk.inj hstep
      exact .moved ⟨hmem, rfl, rfl, by simp⟩
  next hoperation => simp [Call.Fits, hoperation, hphase] at hfits

theorem change_of_advance (orderly : calling.Orderly) {commands : List Command}
    (hstep : calling.advance? id = some (next, commands)) :
    Change calling event next := by
  unfold advance? at hstep
  simp only [Option.bind_eq_bind, Option.bind_eq_some_iff] at hstep
  obtain ⟨call, hcall, hstep⟩ := hstep
  have hmem := call?_mem hcall
  have hfits := orderly.fitting call hmem
  obtain rfl := call?_id hcall
  cases hphase : call.phase with
  | draining =>
      simp only [hphase, Option.ite_none_right_eq_some, Option.some.injEq] at hstep
      obtain ⟨rfl, rfl⟩ := Prod.mk.inj hstep.2
      exact .moved ⟨hmem, rfl, rfl, by simp⟩
  | queued =>
      simp only [hphase, Option.ite_none_right_eq_some, Option.some.injEq] at hstep
      obtain ⟨rfl, rfl⟩ := Prod.mk.inj hstep.2
      exact change_of_onLock hmem
  | cooling due =>
      simp only [hphase, Option.ite_none_right_eq_some, Option.some.injEq] at hstep
      exact change_of_onCooled hmem hfits hphase hstep.2
  | emptying left alive =>
      cases left with
      | cons slot left =>
          simp only [hphase] at hstep
          split at hstep
          next =>
            obtain ⟨rfl, rfl⟩ := Prod.mk.inj (Option.some.inj hstep)
            exact .moved ⟨hmem, rfl, rfl, by simp⟩
          next =>
            obtain ⟨rfl, rfl⟩ := Prod.mk.inj (Option.some.inj hstep)
            exact .moved ⟨hmem, rfl, rfl, by simp⟩
      | nil =>
          cases alive with
          | nil =>
              simp only [hphase] at hstep
              obtain ⟨rfl, rfl⟩ := Prod.mk.inj (Option.some.inj hstep)
              refine .moved ⟨hmem, rfl, rfl, fun _ result hfinished => ⟨hphase, ?_⟩⟩
              exact Prod.ext rfl (CallPhase.finished.inj hfinished).symm
          | cons handle alive => simp [hphase] at hstep
  | launching => simp [hphase] at hstep
  | awaiting handle => simp [hphase] at hstep
  | ending handle result => simp [hphase] at hstep
  | finished result => simp [hphase] at hstep

theorem change_of_launched (orderly : calling.Orderly) {outcome : Except Error MemberConfig}
    {commands : List Command} (hstep : calling.launched? id outcome = some (next, commands)) :
    Change calling event next := by
  unfold launched? at hstep
  simp only [Option.bind_eq_bind, Option.bind_eq_some_iff] at hstep
  obtain ⟨call, hcall, hstep⟩ := hstep
  have hmem := call?_mem hcall
  have hfits := orderly.fitting call hmem
  obtain rfl := call?_id hcall
  split at hstep
  next hphase =>
    cases outcome with
    | error error =>
        obtain ⟨rfl, rfl⟩ := Prod.mk.inj (Option.some.inj hstep)
        refine .moved ⟨hmem, rfl, rfl, fun hoperation => ?_⟩
        simp [Call.Fits, hoperation, hphase] at hfits
    | ok config =>
        obtain ⟨rfl, rfl⟩ := Prod.mk.inj (Option.some.inj hstep)
        exact .moved ⟨hmem, rfl, rfl, by simp⟩
  next => simp at hstep

theorem change_of_ready (orderly : calling.Orderly) {outcome : Except Error Unit}
    {commands : List Command} (hstep : calling.ready? id outcome = some (next, commands)) :
    Change calling event next := by
  unfold ready? at hstep
  simp only [Option.bind_eq_bind, Option.bind_eq_some_iff] at hstep
  obtain ⟨call, hcall, hstep⟩ := hstep
  have hmem := call?_mem hcall
  have hfits := orderly.fitting call hmem
  obtain rfl := call?_id hcall
  split at hstep
  next handle hphase =>
    cases outcome with
    | error error =>
        obtain ⟨rfl, rfl⟩ := Prod.mk.inj (Option.some.inj hstep)
        exact .moved ⟨hmem, rfl, rfl, by simp⟩
    | ok =>
        obtain ⟨rfl, rfl⟩ := Prod.mk.inj (Option.some.inj hstep)
        refine .moved ⟨hmem, rfl, rfl, fun hoperation => ?_⟩
        simp [Call.Fits, hoperation, hphase] at hfits
  next => simp at hstep

theorem change_of_abandoned {commands : List Command}
    (hstep : calling.abandoned? id = some (next, commands)) :
    Change calling event next := by
  unfold abandoned? at hstep
  simp only [Option.bind_eq_bind, Option.bind_eq_some_iff] at hstep
  obtain ⟨call, hcall, hstep⟩ := hstep
  have hmem := call?_mem hcall
  obtain rfl := call?_id hcall
  split at hstep
  next =>
    simp only [Option.ite_none_right_eq_some, Option.some.injEq] at hstep
    obtain ⟨rfl, rfl⟩ := Prod.mk.inj hstep.2
    exact .moved ⟨hmem, rfl, rfl, by simp⟩
  next => simp at hstep

theorem change_of_ended (orderly : calling.Orderly) {handle : Handle}
    (hstep : calling.ended? id handle = some next) :
    Change calling event next := by
  unfold ended? at hstep
  simp only [Option.bind_eq_bind, Option.bind_eq_some_iff] at hstep
  obtain ⟨call, hcall, hstep⟩ := hstep
  have hmem := call?_mem hcall
  have hfits := orderly.fitting call hmem
  obtain rfl := call?_id hcall
  split at hstep
  next awaited result hphase =>
    simp only [Option.ite_none_right_eq_some, Option.some.injEq] at hstep
    obtain ⟨-, rfl⟩ := hstep
    refine .moved ⟨hmem, rfl, rfl, fun hoperation => ?_⟩
    simp [Call.Fits, hoperation, hphase] at hfits
  next =>
    simp only [Option.ite_none_right_eq_some, Option.some.injEq] at hstep
    obtain ⟨-, rfl⟩ := hstep
    exact .moved ⟨hmem, rfl, rfl, by simp⟩
  next => simp at hstep

end Calling

end FleetControl
