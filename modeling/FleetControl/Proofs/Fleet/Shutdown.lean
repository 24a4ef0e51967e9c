import FleetControl.Proofs.Fleet.Custody

/-!
# After a shutdown

The first shutdown closes a fleet for good. Once it is finished all slots are empty and no restart
is under way, and whatever calls come afterwards leave it like that.
-/

namespace FleetControl

open EngineNote

/-- Nothing is left to stop, and nothing can be launched. -/
structure Sealed (fleet : Fleet) (underway : Option Call) : Prop where
  shut : fleet.shutDown = true
  empty : ∀ slot, fleet.process? slot = none
  idle : ∀ call, underway = some call →
    call.ends = [] ∧ ∀ slot, call.operation ≠ .restart slot

namespace Sealed

variable {fleet next : Fleet} {underway later : Option Call} {heard : List EngineNote}
  {commands : List Command} {mark : Option Mark}

/-- No turn of the calls opens the fleet again, or asks the engine for a process. -/
theorem turn (closed : Sealed fleet underway)
    (hturn : Turn fleet underway heard commands mark next later) :
    Sealed next later ∧ ∀ slot, .asked slot ∉ heard ++ ofCommands commands := by
  have hsilent : ∀ slot, EngineNote.asked slot ∉ [] ++ ofCommands [] := by simp [ofCommands]
  cases hturn with
  | rest => exact ⟨closed, hsilent⟩
  | signal => exact ⟨⟨rfl, closed.empty, closed.idle⟩, hsilent⟩
  | coolStop hprocess => simp [closed.empty] at hprocess
  | coolRestart hopen => simp [closed.shut] at hopen
  | empty =>
      refine ⟨⟨closed.shut, closed.empty, ?_⟩, hsilent⟩
      rintro _ ⟨⟩
      exact ⟨rfl, by simp⟩
  | stop _ hprocess => simp [closed.empty] at hprocess
  | vanish => exact ⟨⟨closed.shut, closed.empty, by simp⟩, hsilent⟩
  | launch | refuse | hand | giveUp | ready => exact absurd rfl ((closed.idle _ rfl).2 _)
  | ended => exact absurd (closed.idle _ rfl).1 (List.cons_ne_nil _ _)
  | pass =>
      obtain ⟨hends, -⟩ := closed.idle _ rfl
      refine ⟨⟨closed.shut, closed.empty, ?_⟩, hsilent⟩
      rintro _ ⟨⟩
      exact ⟨hends, by simp⟩
  | clear hprocess => simp [closed.empty] at hprocess
  | @clearEnded id left alive handle halive =>
      obtain rfl : alive = [] := (closed.idle _ rfl).1
      simp at halive
  | cleared => exact ⟨⟨closed.shut, closed.empty, by simp⟩, hsilent⟩

theorem aside (closed : Sealed fleet underway) (haside : fleet.Aside next) :
    Sealed next underway := by
  refine ⟨haside.shutDown.trans closed.shut, fun slot => ?_, closed.idle⟩
  rw [Fleet.process?, haside.slots]
  exact closed.empty slot

/-- A sealed fleet stays sealed, and the engine is not asked for a process any more. -/
theorem step {system next : System} {event : Event} {commands : List Command}
    (closed : Sealed system.fleet system.underway?) (hstep : system.Step event commands next) :
    Sealed next.fleet next.underway? ∧
      ∀ slot, .asked slot ∉ system.heard event ++ ofCommands commands := by
  cases hstep with
  | turn hturn => exact closed.turn hturn
  | move hmove _ hunderway hheard =>
      rw [hunderway, hheard]
      refine ⟨closed.aside hmove.aside, fun slot => ?_⟩
      rcases hmove.commands_eq with rfl | ⟨other, config, rfl⟩ <;> simp [ofCommands, ofCommand?]
  | outside houtside hevent hcommands _ hunderway =>
      rw [hunderway, hevent, hcommands]
      exact ⟨closed.aside (.outside houtside), by simp [System.heard, Calling.heard, ofCommands]⟩

end Sealed

/-- The flag of a fleet tells whether a shutdown was called, and once the first one is finished the
fleet is sealed. -/
structure System.Shutting (system : System) : Prop where
  flag : system.fleet.shutDown = system.calling.closing?.isSome
  closed : system.calling.Closed → Sealed system.fleet system.underway?

namespace System.Shutting

variable {system next : System} {event : Event} {commands : List Command}
  {notes : List EngineNote}

/-- A shutdown is under way only if one was called. -/
theorem shut_of_underway (shutting : system.Shutting) {call : Call}
    (hunderway : system.underway? = some call) (hoperation : call.operation = .shutdown) :
    system.fleet.shutDown = true := by
  rw [shutting.flag, Calling.closing?, List.find?_isSome]
  exact ⟨call, Calling.underway?_mem hunderway, by simp [hoperation]⟩

/-- A shutdown that has torn all processes down, and has seen them end, leaves the fleet sealed. -/
theorem sealed_of_emptied (shutting : system.Shutting)
    (booked : Booked notes system.fleet system.underway?) {id : Nat}
    (hunderway : system.underway? = some ⟨id, .shutdown, .emptying [] []⟩) :
    Sealed system.fleet system.underway? := by
  have hsees : Call.Sees ⟨id, .shutdown, .emptying [] []⟩ system.fleet :=
    booked.sees _ hunderway
  refine ⟨shutting.shut_of_underway hunderway rfl, fun slot => ?_, ?_⟩
  · cases hprocess : system.fleet.process? slot with
    | none => rfl
    | some handle => simpa using hsees slot handle hprocess
  · rw [hunderway]
    rintro _ ⟨⟩
    exact ⟨rfl, by simp⟩

/-- A call goes into another phase. -/
theorem shift (shutting : system.Shutting) (orderly : system.Orderly)
    (booked : Booked notes system.fleet system.underway?)
    (hstep : system.Step event commands next) {call : Call} {phase : CallPhase}
    (hshift : Calling.Shift system.calling next.calling call phase) : next.Shutting := by
  refine ⟨?_, fun hclosed => ?_⟩
  · rw [hshift.closing?, Option.isSome_map, ← shutting.flag]
    exact hshift.shutDown
  · rcases hshift.closed orderly hclosed with hbefore | ⟨id, hunderway⟩
    · exact ((shutting.closed hbefore).step hstep).1
    · exact ((shutting.sealed_of_emptied booked hunderway).step hstep).1

/-- The monitor and the outside have no part in a shutdown. -/
theorem aside (shutting : system.Shutting) (hcalls : next.calls = system.calls)
    (hunderway : next.underway? = system.underway?) (haside : system.fleet.Aside next.fleet) :
    next.Shutting := by
  have hclosing : next.calling.closing? = system.calling.closing? := by
    rw [Calling.closing?, show next.calling.calls = system.calling.calls from hcalls,
      Calling.closing?]
  refine ⟨?_, fun hclosed => ?_⟩
  · rw [hclosing, ← shutting.flag, haside.shutDown]
  · rw [hunderway]
    refine (shutting.closed ?_).aside haside
    rwa [Calling.Closed, hclosing] at hclosed

/-- A call is made, and the first shutdown raises the flag. -/
theorem make (shutting : system.Shutting) {operation : Operation}
    (hstep : system.Step event commands next)
    (hnext : next.calling = system.calling.make operation) : next.Shutting := by
  have hfleet : next.fleet = (system.calling.make operation).fleet := congrArg Calling.fleet hnext
  have hflag : system.calling.fleet.shutDown = system.calling.closing?.isSome := shutting.flag
  refine ⟨?_, fun hclosed => ?_⟩
  · rw [hfleet, hnext, Calling.shutDown_make, Calling.closing?_make, hflag, Option.isSome_or]
    by_cases hoperation : operation = .shutdown <;> simp [hoperation]
  · obtain ⟨closing, result, hclosing, hfinished⟩ := hclosed
    rw [hnext, Calling.closing?_make, hflag] at hclosing
    cases hfirst : system.calling.closing? with
    | some first =>
        rw [hfirst, Option.some_or] at hclosing
        obtain rfl := Option.some.inj hclosing
        exact ((shutting.closed ⟨first, result, hfirst, hfinished⟩).step hstep).1
    | none =>
        rw [hfirst, Option.none_or] at hclosing
        split at hclosing
        next =>
          obtain rfl := Option.some.inj hclosing
          simp at hfinished
        next => simp at hclosing

theorem step (shutting : system.Shutting) (orderly : system.Orderly)
    (booked : Booked notes system.fleet system.underway?)
    (hstep : system.Step event commands next) : next.Shutting := by
  have hstepped := hstep
  cases hstep with
  | turn hturn hchange =>
      cases hchange with
      | made _ hnext => exact shutting.make hstepped hnext
      | moved hshift => exact shutting.shift orderly booked hstepped hshift
  | move hmove hcalls hunderway => exact shutting.aside hcalls hunderway hmove.aside
  | outside houtside _ _ hcalls hunderway =>
      exact shutting.aside hcalls hunderway (.outside houtside)

end System.Shutting

end FleetControl
