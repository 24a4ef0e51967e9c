import FleetControl.Proofs.Fleet.Shutdown

/-!
# Calls one after another

A caller may wait for each call to return before making the next one. The first shutdown returns
once all processes have ended and the directory of the fleet was removed, with the outcome of that
removal. A shutdown that is called after it returns as soon as it is made, and does nothing.
-/

namespace FleetControl

/-- All calls have returned. -/
def System.Returned (system : System) : Prop :=
  ∀ call ∈ system.calls, ∃ result, call.phase = .finished result

/-- Every call is made only once all calls before it have returned. -/
def Serial (moments : List (Moment System Event)) : Prop :=
  ∀ moment ∈ moments, ∀ operation, moment.event = .call operation → moment.before.Returned

/-- The call with this number has not returned yet, if it was made at all. -/
def Calling.Unreturned (calling : Calling) (id : Nat) : Prop :=
  ∀ call ∈ calling.calls, call.id = id → ∀ result, call.phase ≠ .finished result

/-- A call returns in this moment. -/
structure Moment.Returns (moment : Moment System Event) (id : Nat) (operation : Operation)
    (result : Except Error Unit) : Prop where
  after : ⟨id, operation, .finished result⟩ ∈ moment.after.calls
  before : moment.before.calling.Unreturned id

/-- A shutdown is called, and it is not the first one. -/
def Moment.Repeats (moment : Moment System Event) : Prop :=
  moment.event = .call .shutdown ∧ moment.before.fleet.shutDown = true

theorem Serial.append {early late : List (Moment System Event)} (hearly : Serial early)
    (hlate : Serial late) : Serial (early ++ late) := by
  intro moment hmem
  rcases List.mem_append.mp hmem with hmem | hmem
  · exact hearly moment hmem
  · exact hlate moment hmem

namespace System

/-- There is a course from one system to another with calls one after another. -/
def LeadsSerially (first last : System) : Prop :=
  ∃ moments, Course step? first moments last ∧ Serial moments

namespace LeadsSerially

variable {first middle last : System}

theorem trans (hleft : LeadsSerially first middle) (hright : LeadsSerially middle last) :
    LeadsSerially first last := by
  obtain ⟨early, hearly, hserial⟩ := hleft
  obtain ⟨late, hlate, hstill⟩ := hright
  exact ⟨early ++ late, hearly.append hlate, hserial.append hstill⟩

theorem of_step? {event : Event} {commands : List Command}
    (hstep : first.step? event = some (last, commands))
    (hcall : ∀ operation, event = .call operation → first.Returned) : LeadsSerially first last := by
  refine ⟨_, .single hstep, fun moment hmem operation hevent => ?_⟩
  obtain rfl := List.mem_singleton.mp hmem
  exact hcall operation hevent

end LeadsSerially

theorem returned_ofStart (fleet : Fleet) (tick : Nanos) : (ofStart fleet tick).Returned := by
  simp [Returned, ofStart]

end System

namespace Calling

variable {calling next : Calling} {call : Call} {id : Nat} {result : Except Error Unit}

/-- Where a call returns because one goes into another phase, it is the one that does. -/
theorem Shift.finished {phase : CallPhase} (shift : Shift calling next call phase)
    (orderly : calling.Orderly) {operation : Operation}
    (hafter : ⟨id, operation, .finished result⟩ ∈ next.calls)
    (hbefore : calling.Unreturned id) :
    call.id = id ∧ call.operation = operation ∧ phase = .finished result := by
  rw [shift.calls] at hafter
  obtain ⟨old, hold, heq⟩ := List.mem_map.mp hafter
  split at heq
  next hid =>
    obtain rfl := orderly.eq_of_id_eq hold shift.found hid
    exact ⟨congrArg Call.id heq, congrArg Call.operation heq, congrArg Call.phase heq⟩
  next =>
    subst heq
    exact absurd rfl (hbefore _ hold rfl result)

/-- A shutdown that returns without being called in the same moment has just removed the
directory. -/
theorem Shift.shutdown_returns {phase : CallPhase} (shift : Shift calling next call phase)
    (orderly : calling.Orderly) (hafter : ⟨id, .shutdown, .finished result⟩ ∈ next.calls)
    (hbefore : calling.Unreturned id) :
    calling.underway? = some ⟨id, .shutdown, .emptying [] []⟩ ∧
      (next.fleet.files, result) =
        calling.fleet.files.removeDirectory calling.fleet.rootDir := by
  obtain ⟨rfl, hoperation, hfinished⟩ := shift.finished orderly hafter hbefore
  obtain ⟨hphase, hremoved⟩ := shift.last hoperation result hfinished
  refine ⟨?_, hremoved⟩
  rw [orderly.underway?_eq shift.found (by rw [hphase]; rfl), ← hoperation, ← hphase]

/-- A shutdown that returns when it is made is not the first one, and touches nothing. -/
theorem shutdown_returns_of_make {operation : Operation}
    (hafter : ⟨id, .shutdown, .finished result⟩ ∈ (calling.make operation).calls)
    (hbefore : calling.Unreturned id) :
    operation = .shutdown ∧ calling.fleet.shutDown = true ∧
      (calling.make operation).fleet = calling.fleet := by
  have hnew : ∀ phase : CallPhase,
      ⟨id, .shutdown, .finished result⟩ ∈ calling.calls ++ [⟨calling.made, operation, phase⟩] →
      operation = .shutdown ∧ phase = .finished result := by
    intro phase hmem
    rcases List.mem_append.mp hmem with hold | hmade
    · exact absurd rfl (hbefore _ hold rfl result)
    · have hsame := List.mem_singleton.mp hmade
      exact ⟨(congrArg Call.operation hsame).symm, (congrArg Call.phase hsame).symm⟩
  cases operation with
  | stop slot =>
      unfold make at hafter
      dsimp only at hafter
      split at hafter <;> simpa using (hnew _ hafter).1
  | restart slot =>
      unfold make at hafter
      dsimp only at hafter
      split at hafter <;> simpa using (hnew _ hafter).1
  | shutdown =>
      unfold make at hafter ⊢
      dsimp only at hafter ⊢
      split at hafter
      next hshut => exact ⟨rfl, hshut, by rw [if_pos hshut]⟩
      next => simpa using (hnew _ hafter).2

end Calling

namespace System

variable {system next : System} {event : Event} {commands : List Command} {id : Nat}
  {result : Except Error Unit}

/-- A shutdown returns where it is made and is not the first one, or else where the last process
has ended and the directory was removed. -/
theorem shutdown_returns (orderly : system.Orderly)
    (hstep : system.step? event = some (next, commands))
    (hreturns : Moment.Returns ⟨system, event, commands, next⟩ id .shutdown result) :
    (event = .call .shutdown ∧ system.fleet.shutDown = true ∧ next.fleet = system.fleet) ∨
      system.underway? = some ⟨id, .shutdown, .emptying [] []⟩ ∧
        (next.fleet.files, result) =
          system.fleet.files.removeDirectory system.fleet.rootDir := by
  obtain ⟨hafter, hbefore⟩ := hreturns
  obtain ⟨-, hstepped⟩ := step_of_step? orderly hstep
  have hcalls : next.calls ≠ system.calls :=
    fun hsame => hbefore _ (hsame ▸ hafter) rfl _ rfl
  cases hstepped with
  | turn _ hchange =>
      cases hchange with
      | made hevent hnext =>
          have hmade : ⟨id, .shutdown, .finished result⟩ ∈ next.calling.calls := hafter
          rw [hnext] at hmade
          obtain ⟨rfl, hshut, hfleet⟩ := Calling.shutdown_returns_of_make hmade hbefore
          exact .inl ⟨hevent, hshut, (congrArg Calling.fleet hnext).trans hfleet⟩
      | moved shift => exact .inr (shift.shutdown_returns orderly hafter hbefore)
  | move _ hsame => exact absurd hsame hcalls
  | outside _ _ _ hsame => exact absurd hsame hcalls

/-- A shutdown that is called again touches nothing. -/
theorem fleet_of_repeats (hstep : system.step? event = some (next, commands))
    (hrepeats : Moment.Repeats ⟨system, event, commands, next⟩) : next.fleet = system.fleet := by
  obtain ⟨rfl, hshut⟩ := hrepeats
  obtain ⟨rfl, -⟩ := Prod.mk.inj (Option.some.inj hstep)
  have hflag : system.calling.fleet.shutDown = true := hshut
  simp only [withCalling, Calling.make, if_pos hflag]
  rfl

end System

end FleetControl
