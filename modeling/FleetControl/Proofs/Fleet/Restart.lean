import FleetControl.Proofs.Fleet.Agreement

/-!
# What becomes of a restart

A restart goes on only with events of its own, and each of them takes it from one phase to the
next. Until it returns nothing comes of it but that the engine is asked for a process, once, and
that the configuration which the engine gives out is put in force.
-/

namespace FleetControl

/-- The call that goes on with an event. -/
def Event.caller? : Event → Option Nat
  | .advance id => some id
  | .launched id _ => some id
  | .ready id _ => some id
  | .abandoned id => some id
  | .ended id _ => some id
  | _ => none

/-- The engine hands out a process for a slot, and its configuration is put in force. -/
def Fleet.hand (fleet : Fleet) (slot : Nat) (config : MemberConfig) : Fleet :=
  { fleet.changeMember slot (·.setConfig config) with launches := fleet.launches + 1 }

/-- How an event takes a restart from one phase to another, and what it makes of the fleet. -/
inductive Restarts (fleet : Fleet) (id slot : Nat) :
    Event → CallPhase → CallPhase → Fleet → Prop where
  /-- The fleet was shut down. -/
  | refused (hshut : fleet.shutDown = true) :
      Restarts fleet id slot (.advance id) .queued (.finished (.error .cancelled)) fleet
  /-- The member runs. -/
  | spared : Restarts fleet id slot (.advance id) .queued (.finished (.ok ())) fleet
  | cools (hprocess : fleet.process? slot = none) :
      Restarts fleet id slot (.advance id) .queued (.cooling (Calling.cooledAt fleet slot)) fleet
  | launches {due : Nanos} : Restarts fleet id slot (.advance id) (.cooling due) .launching fleet
  | fails {error : Error} :
      Restarts fleet id slot (.launched id (.error error)) .launching (.finished (.error error))
        fleet
  | handed {config : MemberConfig} :
      Restarts fleet id slot (.launched id (.ok config)) .launching (.awaiting fleet.launches)
        (fleet.hand slot config)
  | unready {handle : Handle} {error : Error} :
      Restarts fleet id slot (.ready id (.error error)) (.awaiting handle)
        (.ending handle (.error error)) fleet
  | abandons {handle : Handle} :
      Restarts fleet id slot (.abandoned id) (.awaiting handle)
        (.ending handle (.error .cancelled)) fleet
  | ready {handle : Handle} :
      Restarts fleet id slot (.ready id (.ok ())) (.awaiting handle) (.finished (.ok ()))
        (fleet.occupy slot handle)
  | ended {handle : Handle} {result : Except Error Unit} :
      Restarts fleet id slot (.ended id handle) (.ending handle result) (.finished result) fleet

namespace Restarts

variable {fleet after : Fleet} {id slot : Nat} {event : Event} {phase later : CallPhase}

/-- What a restart has returned is final. -/
theorem phase_ne_finished (hrestarts : Restarts fleet id slot event phase later after)
    (result : Except Error Unit) : phase ≠ .finished result := by
  cases hrestarts <;> simp

/-- After the lock was taken, a restart goes on or returns. -/
theorem isUnderway_or_finished (hrestarts : Restarts fleet id slot event phase later after) :
    later.isUnderway = true ∨ ∃ result, later = .finished result := by
  cases hrestarts with
  | cools | launches | handed | unready | abandons => exact .inl rfl
  | refused | spared | fails | ready | ended => exact .inr ⟨_, rfl⟩

/-- A restart goes on only if the slot is empty when it takes the lock. -/
theorem process?_eq_none (hrestarts : Restarts fleet id slot event .queued later after)
    (hunderway : later.isUnderway = true) : fleet.process? slot = none := by
  cases hrestarts with
  | cools hprocess => exact hprocess
  | refused | spared => exact absurd hunderway Bool.false_ne_true

/-- A restart leaves the fleet alone until its process is ready, but for what the engine gives
out. -/
theorem fleet_cases (hrestarts : Restarts fleet id slot event phase later after) :
    after = fleet ∨ (∃ config, event = .launched id (.ok config) ∧ after = fleet.hand slot config) ∨
      ∃ handle, event = .ready id (.ok ()) ∧ phase = .awaiting handle := by
  cases hrestarts with
  | refused | spared | cools | launches | fails | unready | abandons | ended => exact .inl rfl
  | handed => exact .inr (.inl ⟨_, rfl, rfl⟩)
  | ready => exact .inr (.inr ⟨_, rfl, rfl⟩)

end Restarts

namespace Calling

variable {calling next : Calling} {id other slot : Nat} {commands : List Command}

theorem call?_setPhase_of_ne (hother : other ≠ id) (phase : CallPhase) :
    (calling.setPhase id phase).call? other = calling.call? other := by
  have hsame : (fun call : Call => decide (call.id = other)) ∘ (fun call =>
      if call.id = id then { call with phase } else call) =
        fun call => decide (call.id = other) := by
    funext call
    simp only [Function.comp]
    split <;> rfl
  rw [call?, setPhase, List.find?_map, hsame, ← call?]
  cases hcall : calling.call? other with
  | none => rfl
  | some call => rw [Option.map_some, if_neg (by rw [call?_id hcall]; exact hother)]

theorem call?_onLock_of_ne {call : Call} (hother : other ≠ call.id) :
    (calling.onLock call).call? other = calling.call? other := by
  unfold onLock
  dsimp only
  split
  next => split <;> exact call?_setPhase_of_ne hother _
  next =>
    split
    next => exact call?_setPhase_of_ne hother _
    next => split <;> exact call?_setPhase_of_ne hother _
  next => exact call?_setPhase_of_ne hother _

theorem call?_onCooled_of_ne {call : Call} (hother : other ≠ call.id) :
    (calling.onCooled call).1.call? other = calling.call? other := by
  unfold onCooled
  dsimp only
  split
  next => split <;> exact call?_setPhase_of_ne hother _
  next => split <;> exact call?_setPhase_of_ne hother _
  next => rfl

theorem call?_advance_of_ne (hother : other ≠ id)
    (hstep : calling.advance? id = some (next, commands)) :
    next.call? other = calling.call? other := by
  unfold advance? at hstep
  simp only [Option.bind_eq_bind, Option.bind_eq_some_iff] at hstep
  obtain ⟨call, hcall, hstep⟩ := hstep
  have hcaller : other ≠ call.id := call?_id hcall ▸ hother
  split at hstep
  next =>
    obtain ⟨rfl, -⟩ := Prod.mk.inj (Option.some.inj (Option.ite_none_right_eq_some.mp hstep).2)
    exact call?_setPhase_of_ne hother _
  next =>
    obtain ⟨rfl, -⟩ := Prod.mk.inj (Option.some.inj (Option.ite_none_right_eq_some.mp hstep).2)
    exact call?_onLock_of_ne hcaller
  next =>
    have hcooled := Option.some.inj (Option.ite_none_right_eq_some.mp hstep).2
    obtain rfl : (calling.onCooled call).1 = next := congrArg Prod.fst hcooled
    exact call?_onCooled_of_ne hcaller
  next =>
    split at hstep <;>
      (obtain ⟨rfl, -⟩ := Prod.mk.inj (Option.some.inj hstep)
       exact call?_setPhase_of_ne hother _)
  next =>
    obtain ⟨rfl, -⟩ := Prod.mk.inj (Option.some.inj hstep)
    exact call?_setPhase_of_ne hcaller _
  next => simp at hstep

theorem call?_launched_of_ne (hother : other ≠ id) {outcome : Except Error MemberConfig}
    (hstep : calling.launched? id outcome = some (next, commands)) :
    next.call? other = calling.call? other := by
  unfold launched? at hstep
  simp only [Option.bind_eq_bind, Option.bind_eq_some_iff] at hstep
  obtain ⟨call, -, hstep⟩ := hstep
  split at hstep
  next =>
    cases outcome <;>
      (obtain ⟨rfl, -⟩ := Prod.mk.inj (Option.some.inj hstep)
       exact call?_setPhase_of_ne hother _)
  next => simp at hstep

theorem call?_ready_of_ne (hother : other ≠ id) {outcome : Except Error Unit}
    (hstep : calling.ready? id outcome = some (next, commands)) :
    next.call? other = calling.call? other := by
  unfold ready? at hstep
  simp only [Option.bind_eq_bind, Option.bind_eq_some_iff] at hstep
  obtain ⟨call, -, hstep⟩ := hstep
  split at hstep
  next =>
    cases outcome <;>
      (obtain ⟨rfl, -⟩ := Prod.mk.inj (Option.some.inj hstep)
       exact call?_setPhase_of_ne hother _)
  next => simp at hstep

theorem call?_abandoned_of_ne (hother : other ≠ id)
    (hstep : calling.abandoned? id = some (next, commands)) :
    next.call? other = calling.call? other := by
  unfold abandoned? at hstep
  simp only [Option.bind_eq_bind, Option.bind_eq_some_iff] at hstep
  obtain ⟨call, -, hstep⟩ := hstep
  split at hstep
  next =>
    obtain ⟨rfl, -⟩ := Prod.mk.inj (Option.some.inj (Option.ite_none_right_eq_some.mp hstep).2)
    exact call?_setPhase_of_ne hother _
  next => simp at hstep

theorem call?_ended_of_ne (hother : other ≠ id) {handle : Handle}
    (hstep : calling.ended? id handle = some next) :
    next.call? other = calling.call? other := by
  unfold ended? at hstep
  simp only [Option.bind_eq_bind, Option.bind_eq_some_iff] at hstep
  obtain ⟨call, -, hstep⟩ := hstep
  split at hstep
  next =>
    obtain rfl := Option.some.inj (Option.ite_none_right_eq_some.mp hstep).2
    exact call?_setPhase_of_ne hother _
  next =>
    obtain rfl := Option.some.inj (Option.ite_none_right_eq_some.mp hstep).2
    exact call?_setPhase_of_ne hother _
  next => simp at hstep

/-- A call that was made is not made again. -/
theorem call?_make {call : Call} (hcall : calling.call? id = some call) (operation : Operation) :
    (calling.make operation).call? id = some call := by
  have happend : ∀ made : Call,
      (calling.calls ++ [made]).find? (fun call => decide (call.id = id)) = some call := by
    intro made
    rw [List.find?_append, show calling.calls.find? (fun call => decide (call.id = id)) = some call
      from hcall, Option.some_or]
  unfold make
  dsimp only
  split
  next => split <;> exact happend _
  next => split <;> exact happend _
  next => split <;> exact happend _

end Calling

namespace System

variable {system next : System} {event : Event} {commands : List Command} {id slot : Nat}
  {phase : CallPhase}

/-- A call goes on only with events of its own. -/
theorem call?_of_other (hother : event.caller? ≠ some id) {call : Call}
    (hcall : system.calling.call? id = some call)
    (hstep : system.step? event = some (next, commands)) :
    next.calling.call? id = some call := by
  have hwatching : ∀ {found : Option Watching},
      found.map (step?.onWatching system) = some (next, commands) →
      next.calling.call? id = some call := by
    intro found hfound
    obtain ⟨watching, -, rfl, -⟩ := exists_of_onWatching hfound
    exact hcall
  have hcalling : ∀ {found : Option (Calling × List Command)},
      (∀ calling more, found = some (calling, more) →
        calling.call? id = system.calling.call? id) →
      found.map (step?.onCalling system) = some (next, commands) →
      next.calling.call? id = some call := by
    intro found hsame hfound
    obtain ⟨calling, hcalling, rfl⟩ := exists_of_onCalling hfound
    exact (hsame calling commands hcalling).trans hcall
  have hne : ∀ {other}, event.caller? = some other → id ≠ other := by
    rintro other hcaller rfl
    exact hother hcaller
  cases event with
  | outside outer =>
      simp only [step?, Option.map_eq_some_iff, Prod.mk.injEq] at hstep
      obtain ⟨fleet, -, rfl, -⟩ := hstep
      exact hcall
  | call operation =>
      obtain ⟨rfl, -⟩ := Prod.mk.inj (Option.some.inj hstep)
      exact Calling.call?_make hcall operation
  | advance other => exact hcalling (fun _ _ => Calling.call?_advance_of_ne (hne rfl)) hstep
  | launched other => exact hcalling (fun _ _ => Calling.call?_launched_of_ne (hne rfl)) hstep
  | ready other => exact hcalling (fun _ _ => Calling.call?_ready_of_ne (hne rfl)) hstep
  | abandoned other => exact hcalling (fun _ _ => Calling.call?_abandoned_of_ne (hne rfl)) hstep
  | ended other handle =>
      simp only [step?, Option.map_eq_some_iff, Prod.mk.injEq] at hstep
      obtain ⟨calling, hended, rfl, -⟩ := hstep
      exact (Calling.call?_ended_of_ne (hne rfl) hended).trans hcall
  | tick | survey | join | quit | answered | drop => exact hwatching hstep
  | probe =>
      obtain ⟨watching, -, rfl⟩ := exists_of_advance? hstep
      exact hcall

/-- A restart goes on by itself. -/
theorem restarts_of_advance (orderly : system.Orderly)
    (hcall : system.calling.call? id = some ⟨id, .restart slot, phase⟩)
    (hstep : system.step? (.advance id) = some (next, commands)) :
    ∃ later, next.calling.call? id = some ⟨id, .restart slot, later⟩ ∧
      Restarts system.fleet id slot (.advance id) phase later next.fleet := by
  have hfits := orderly.fitting _ (Calling.call?_mem hcall)
  have hset := call?_setPhase hcall
  obtain ⟨calling, hadvance, rfl⟩ := exists_of_onCalling hstep
  simp only [Calling.advance?, hcall, Option.bind_eq_bind, Option.bind_some] at hadvance
  cases phase with
  | queued =>
      obtain ⟨rfl, -⟩ :=
        Prod.mk.inj (Option.some.inj (Option.ite_none_right_eq_some.mp hadvance).2)
      unfold Calling.onLock
      dsimp only
      split
      next hshut => exact ⟨_, hset _, .refused hshut⟩
      next =>
        split
        next => exact ⟨_, hset _, .spared⟩
        next hprocess => exact ⟨_, hset _, .cools hprocess⟩
  | cooling due =>
      have hcooled := Option.some.inj (Option.ite_none_right_eq_some.mp hadvance).2
      obtain ⟨member, hmember⟩ := Fleet.exists_member? (show slot < _ from hfits)
      simp only [Calling.onCooled, hmember] at hcooled
      obtain ⟨rfl, -⟩ := Prod.mk.inj hcooled
      exact ⟨_, hset _, .launches⟩
  | draining | emptying => exact hfits.elim
  | launching | awaiting | ending | finished => simp at hadvance

/-- With an event of its own a restart goes from one phase to the next. -/
theorem restarts_of_step? (orderly : system.Orderly)
    (hcall : system.calling.call? id = some ⟨id, .restart slot, phase⟩)
    (hcaller : event.caller? = some id)
    (hstep : system.step? event = some (next, commands)) :
    ∃ later, next.calling.call? id = some ⟨id, .restart slot, later⟩ ∧
      Restarts system.fleet id slot event phase later next.fleet := by
  have hfits := orderly.fitting _ (Calling.call?_mem hcall)
  have hset := call?_setPhase hcall
  cases event with
  | advance other =>
      obtain rfl := Option.some.inj hcaller
      exact restarts_of_advance orderly hcall hstep
  | launched other outcome =>
      obtain rfl := Option.some.inj hcaller
      simp only [step?, Calling.launched?, hcall, Option.bind_eq_bind, Option.bind_some] at hstep
      cases phase with
      | launching =>
          cases outcome with
          | error error =>
              obtain ⟨rfl, -⟩ := Prod.mk.inj (Option.some.inj hstep)
              exact ⟨_, hset _, .fails⟩
          | ok config =>
              obtain ⟨rfl, -⟩ := Prod.mk.inj (Option.some.inj hstep)
              exact ⟨_, hset _, .handed⟩
      | draining | emptying => exact hfits.elim
      | queued | cooling | awaiting | ending | finished => simp at hstep
  | ready other outcome =>
      obtain rfl := Option.some.inj hcaller
      simp only [step?, Calling.ready?, hcall, Option.bind_eq_bind, Option.bind_some] at hstep
      cases phase with
      | awaiting handle =>
          cases outcome with
          | error error =>
              obtain ⟨rfl, -⟩ := Prod.mk.inj (Option.some.inj hstep)
              exact ⟨_, hset _, .unready⟩
          | ok =>
              obtain ⟨rfl, -⟩ := Prod.mk.inj (Option.some.inj hstep)
              exact ⟨_, hset _, .ready⟩
      | draining | emptying => exact hfits.elim
      | queued | cooling | launching | ending | finished => simp at hstep
  | abandoned other =>
      obtain rfl := Option.some.inj hcaller
      simp only [step?, Calling.abandoned?, hcall, Option.bind_eq_bind, Option.bind_some] at hstep
      cases phase with
      | awaiting handle =>
          obtain ⟨calling, hcalling, rfl⟩ := exists_of_onCalling hstep
          obtain ⟨rfl, -⟩ :=
            Prod.mk.inj (Option.some.inj (Option.ite_none_right_eq_some.mp hcalling).2)
          exact ⟨_, hset _, .abandons⟩
      | draining | emptying => exact hfits.elim
      | queued | cooling | launching | ending | finished => simp at hstep
  | ended other process =>
      obtain rfl := Option.some.inj hcaller
      simp only [step?, Calling.ended?, hcall, Option.bind_eq_bind, Option.bind_some] at hstep
      cases phase with
      | ending handle result =>
          obtain ⟨calling, hcalling, hpair⟩ := Option.map_eq_some_iff.mp hstep
          obtain ⟨rfl, -⟩ := Prod.mk.inj hpair
          obtain ⟨rfl, hended⟩ := Option.ite_none_right_eq_some.mp hcalling
          obtain rfl := Option.some.inj hended
          exact ⟨_, hset _, .ended⟩
      | draining | emptying => exact hfits.elim
      | queued | cooling | launching | awaiting | finished => simp at hstep
  | outside | call | tick | survey | join | quit | probe | answered | drop => cases hcaller

/-- Whoever records a transition is under way, and goes on with it. -/
theorem exists_caller_of_recorded (orderly : system.Orderly) {mark : Mark}
    (hmark : system.recorded? event = some mark) :
    ∃ call, system.underway? = some call ∧ event.caller? = some call.id := by
  have hfound : ∀ {other call}, system.calling.call? other = some call →
      call.phase.isUnderway = true → event.caller? = some other →
      ∃ call, system.underway? = some call ∧ event.caller? = some call.id := by
    intro other call hcall hunderway hcaller
    exact ⟨call, orderly.underway?_eq (Calling.call?_mem hcall) hunderway,
      Calling.call?_id hcall ▸ hcaller⟩
  cases event with
  | advance other =>
      simp only [recorded?, Calling.recorded?, Option.bind_eq_bind,
        Option.bind_eq_some_iff] at hmark
      obtain ⟨call, hcall, hmark⟩ := hmark
      split at hmark
      next hphase _ => exact hfound hcall (by rw [hphase]; rfl) rfl
      next hphase => exact hfound hcall (by rw [hphase]; rfl) rfl
      next => simp at hmark
  | ready other outcome =>
      cases outcome with
      | error error => simp [recorded?, Calling.recorded?] at hmark
      | ok =>
          simp only [recorded?, Calling.recorded?, Option.bind_eq_bind,
            Option.bind_eq_some_iff] at hmark
          obtain ⟨call, hcall, hmark⟩ := hmark
          split at hmark
          next hphase => exact hfound hcall (by rw [hphase]; rfl) rfl
          next => simp at hmark
  | outside | call | launched | abandoned | ended | tick | survey | join | quit | probe | answered
  | drop => simp [recorded?, Calling.recorded?] at hmark

/-- A restart records a transition only when it returns without an error. -/
theorem recorded?_of_restarts {later : CallPhase} {fleet : Fleet}
    (hcall : system.calling.call? id = some ⟨id, .restart slot, phase⟩)
    (hrestarts : Restarts system.fleet id slot event phase later fleet)
    (hresult : later ≠ .finished (.ok ())) : system.recorded? event = none := by
  cases hrestarts with
  | refused | spared | cools | launches => simp [recorded?, Calling.recorded?, hcall]
  | fails | handed | unready | abandons | ended => rfl
  | ready => exact absurd rfl hresult

/-- A restart that is under way stays so or returns, and nobody records a transition meanwhile,
unless the member was restarted. -/
theorem restart_of_step? (orderly : system.Orderly)
    (hcall : system.calling.call? id = some ⟨id, .restart slot, phase⟩)
    (hunderway : phase.isUnderway = true) (hstep : system.step? event = some (next, commands)) :
    ∃ later, next.calling.call? id = some ⟨id, .restart slot, later⟩ ∧
      (later.isUnderway = true ∨ ∃ result, later = .finished result) ∧
      (later ≠ .finished (.ok ()) → system.recorded? event = none) := by
  by_cases hcaller : event.caller? = some id
  · obtain ⟨later, hlater, hrestarts⟩ := restarts_of_step? orderly hcall hcaller hstep
    exact ⟨later, hlater, hrestarts.isUnderway_or_finished, recorded?_of_restarts hcall hrestarts⟩
  · refine ⟨phase, call?_of_other hcaller hcall hstep, .inl hunderway, fun _ => ?_⟩
    by_contra hsome
    obtain ⟨mark, hmark⟩ := Option.ne_none_iff_exists'.mp hsome
    obtain ⟨call, hfound, hgoes⟩ := exists_caller_of_recorded orderly hmark
    have hthis := orderly.underway?_eq (Calling.call?_mem hcall) hunderway
    obtain rfl := Option.some.inj (hthis.symm.trans hfound)
    exact hcaller hgoes

/-- A restart that has returned takes no part in what happens. -/
theorem call?_of_finished (orderly : system.Orderly) {result : Except Error Unit}
    (hcall : system.calling.call? id = some ⟨id, .restart slot, .finished result⟩)
    (hstep : system.step? event = some (next, commands)) :
    next.calling.call? id = some ⟨id, .restart slot, .finished result⟩ := by
  refine call?_of_other (fun hcaller => ?_) hcall hstep
  obtain ⟨later, -, hrestarts⟩ := restarts_of_step? orderly hcall hcaller hstep
  exact hrestarts.phase_ne_finished result rfl

end System

end FleetControl
