import FleetControl.Proofs.Fleet.Standing
import Mathlib.Data.List.Find
import Mathlib.Data.List.Nodup

/-!
# The fleet lock

Calls are numbered as they are made, and a call that has taken the fleet lock stands at the head of
the line until it is finished. So at most one call is under way at any time.
-/

namespace FleetControl

/-- A call in this phase has taken the fleet lock and is not finished. -/
def CallPhase.isUnderway : CallPhase → Bool
  | .cooling _ => true
  | .launching => true
  | .awaiting _ => true
  | .ending .. => true
  | .emptying .. => true
  | .draining => false
  | .queued => false
  | .finished _ => false

/-- The phase is one that the call's operation passes through, and the call's slot exists. -/
def Call.Fits (call : Call) (size : Nat) : Prop :=
  match call.operation, call.phase with
  | _, .finished _ => True
  | .stop slot, .queued => slot < size
  | .stop slot, .cooling _ => slot < size
  | .stop slot, .ending .. => slot < size
  | .restart slot, .queued => slot < size
  | .restart slot, .cooling _ => slot < size
  | .restart slot, .launching => slot < size
  | .restart slot, .awaiting _ => slot < size
  | .restart slot, .ending .. => slot < size
  | .shutdown, .draining => True
  | .shutdown, .queued => True
  | .shutdown, .emptying .. => True
  | _, _ => False

namespace Calling

/-- The call that is under way. -/
def underway? (calling : Calling) : Option Call := calling.calls.find? (·.phase.isUnderway)

/-- The calls are numbered in order, and only the head of the line is under way. -/
structure Orderly (calling : Calling) : Prop where
  numbered : calling.calls.map (·.id) = List.range calling.made
  holding : ∀ call ∈ calling.calls, call.phase.isUnderway = true →
    calling.line.head? = some call.id
  fitting : ∀ call ∈ calling.calls, call.Fits calling.fleet.members.length

variable {calling : Calling} {call : Call} {id : Nat}

theorem call?_mem (hcall : calling.call? id = some call) : call ∈ calling.calls :=
  List.mem_of_find?_eq_some hcall

theorem call?_id (hcall : calling.call? id = some call) : call.id = id := by
  simpa using List.find?_some hcall

theorem underway?_mem (hcall : calling.underway? = some call) : call ∈ calling.calls :=
  List.mem_of_find?_eq_some hcall

theorem underway?_isUnderway (hcall : calling.underway? = some call) :
    call.phase.isUnderway = true := by
  simpa using List.find?_some hcall

namespace Orderly

/-- Two calls never have the same number. -/
theorem eq_of_id_eq (orderly : calling.Orderly) {other : Call} (hcall : call ∈ calling.calls)
    (hother : other ∈ calling.calls) (hid : call.id = other.id) : call = other := by
  have hnodup : (calling.calls.map (·.id)).Nodup := orderly.numbered ▸ List.nodup_range
  exact List.inj_on_of_nodup_map hnodup hcall hother hid

/-- A call that is under way is the only one. -/
theorem underway?_eq (orderly : calling.Orderly) (hcall : call ∈ calling.calls)
    (hunderway : call.phase.isUnderway = true) : calling.underway? = some call := by
  cases hfound : calling.underway? with
  | none =>
      have := List.find?_eq_none.mp hfound call hcall
      exact absurd hunderway this
  | some other =>
      have hother := orderly.holding other (underway?_mem hfound) (underway?_isUnderway hfound)
      have hheld := orderly.holding call hcall hunderway
      rw [orderly.eq_of_id_eq (underway?_mem hfound) hcall
        (Option.some.inj (hother.symm.trans hheld))]

/-- While the head of the line still waits, no call is under way. -/
theorem underway?_eq_none (orderly : calling.Orderly) (hcall : calling.call? id = some call)
    (hhead : calling.line.head? = some id) (hwaits : call.phase.isUnderway = false) :
    calling.underway? = none := by
  refine List.find?_eq_none.mpr fun other hother hunderway => ?_
  have hheld := orderly.holding other hother hunderway
  have hid : other.id = call.id :=
    (Option.some.inj (hheld.symm.trans hhead)).trans (call?_id hcall).symm
  rw [orderly.eq_of_id_eq hother (call?_mem hcall) hid, hwaits] at hunderway
  exact Bool.false_ne_true hunderway

/-- A call enters another phase of its operation; it may be under way only at the head of the
line. -/
theorem setPhase (orderly : calling.Orderly) (hcall : calling.call? id = some call)
    (phase : CallPhase) (hfits : { call with phase }.Fits calling.fleet.members.length)
    (hhead : phase.isUnderway = true → calling.line.head? = some id) :
    (calling.setPhase id phase).Orderly where
  numbered := by
    refine .trans ?_ orderly.numbered
    rw [Calling.setPhase, List.map_map]
    apply List.map_congr_left
    intro other _
    simp only [Function.comp]
    split <;> rfl
  holding := by
    intro other hother hunderway
    obtain ⟨old, hold, rfl⟩ := List.mem_map.mp hother
    by_cases hid : old.id = id
    · rw [if_pos hid] at hunderway ⊢
      exact hid ▸ hhead hunderway
    · rw [if_neg hid] at hunderway ⊢
      exact orderly.holding old hold hunderway
  fitting := by
    intro other hother
    obtain ⟨old, hold, rfl⟩ := List.mem_map.mp hother
    by_cases hid : old.id = id
    · rw [if_pos hid, orderly.eq_of_id_eq hold (call?_mem hcall)
        (hid.trans (call?_id hcall).symm)]
      exact hfits
    · rw [if_neg hid]
      exact orderly.fitting old hold

/-- The phase of the only call that may be under way decides which one is. -/
theorem underway?_setPhase (hcall : calling.call? id = some call)
    (halone : ∀ other ∈ calling.calls, other.phase.isUnderway = true → other.id = id)
    (phase : CallPhase) :
    (calling.setPhase id phase).underway? =
      if phase.isUnderway then some { call with phase } else none := by
  rw [underway?, Calling.setPhase, List.find?_map]
  -- No other call is under way, so the search stops at this one or nowhere.
  have hfound : ∀ other ∈ calling.calls,
      ((·.phase.isUnderway) ∘ fun call : Call =>
        if call.id = id then { call with phase } else call) other =
        (decide (other.id = id) && phase.isUnderway) := by
    intro other hother
    by_cases hid : other.id = id
    · simp [hid]
    · cases hunderway : other.phase.isUnderway with
      | false => simp [hid, hunderway]
      | true => exact absurd (halone other hother hunderway) hid
  rw [List.find?_congr hfound]
  cases hphase : phase.isUnderway with
  | false => simp
  | true =>
      have hid := call?_id hcall
      simp only [Bool.and_true]
      rw [show calling.calls.find? (fun other => decide (other.id = id)) = some call from hcall]
      simp [hid]

/-- A call that only waits may enter another phase in which it waits. -/
theorem underway?_setPhase_of_waits (orderly : calling.Orderly)
    (hcall : calling.call? id = some call) (hwaits : call.phase.isUnderway = false)
    (phase : CallPhase) (hphase : phase.isUnderway = false) :
    (calling.setPhase id phase).underway? = calling.underway? := by
  have hidle : ∀ other ∈ calling.calls, other.id = id → other.phase.isUnderway = false := by
    intro other hother hid
    rw [orderly.eq_of_id_eq hother (call?_mem hcall) (hid.trans (call?_id hcall).symm), hwaits]
  rw [underway?, Calling.setPhase, List.find?_map]
  have hfound : ∀ other ∈ calling.calls,
      ((·.phase.isUnderway) ∘ fun call : Call =>
        if call.id = id then { call with phase } else call) other =
        other.phase.isUnderway := by
    intro other hother
    by_cases hid : other.id = id
    · simp [hid, hphase, hidle other hother hid]
    · simp [hid]
  rw [List.find?_congr hfound, ← underway?]
  cases hunder : calling.underway? with
  | none => rfl
  | some other =>
      have hid : other.id ≠ id := by
        intro hid
        have := hidle other (underway?_mem hunder) hid
        rw [underway?_isUnderway hunder] at this
        exact absurd this.symm Bool.false_ne_true
      simp [hid]

/-- The call at the head of the line is finished and leaves it. -/
theorem finish (orderly : calling.Orderly) (hcall : calling.call? id = some call)
    (halone : ∀ other ∈ calling.calls, other.phase.isUnderway = true → other.id = id)
    (result : Except Error Unit) : (calling.finish id result).Orderly where
  numbered := (orderly.setPhase hcall (.finished result) (by simp [Call.Fits])
    (by simp [CallPhase.isUnderway])).numbered
  holding := by
    intro other hother hunderway
    have hnone := underway?_setPhase hcall halone (.finished result)
    exact absurd hunderway (List.find?_eq_none.mp hnone other hother)
  fitting := (orderly.setPhase hcall (.finished result) (by simp [Call.Fits])
    (by simp [CallPhase.isUnderway])).fitting

/-- The calls do not depend on the fleet, but for the number of its members. -/
theorem withFleet (orderly : calling.Orderly) {fleet : Fleet}
    (hsize : fleet.members.length = calling.fleet.members.length) :
    ({ calling with fleet } : Calling).Orderly where
  numbered := orderly.numbered
  holding := orderly.holding
  fitting := by
    intro other hother
    rw [hsize]
    exact orderly.fitting other hother

/-- A new call enters, and stands in line at most behind the others. -/
theorem enter (orderly : calling.Orderly) {fleet : Fleet} {operation : Operation}
    {phase : CallPhase} {line : List Nat}
    (hsize : fleet.members.length = calling.fleet.members.length)
    (hfits : (Call.mk calling.made operation phase).Fits fleet.members.length)
    (hwaits : phase.isUnderway = false)
    (hline : ∀ id, calling.line.head? = some id → line.head? = some id) :
    Orderly { fleet, calls := calling.calls ++ [⟨calling.made, operation, phase⟩], line,
              made := calling.made + 1 } where
  numbered := by
    simp only [List.map_append, orderly.numbered, List.map_cons, List.map_nil, List.range_succ]
  holding := by
    intro other hother hunderway
    rcases List.mem_append.mp hother with hother | hother
    · exact hline _ (orderly.holding other hother hunderway)
    · rw [List.mem_singleton.mp hother, hwaits] at hunderway
      exact absurd hunderway Bool.false_ne_true
  fitting := by
    intro other hother
    rcases List.mem_append.mp hother with hother | hother
    · rw [hsize]
      exact orderly.fitting other hother
    · rw [List.mem_singleton.mp hother]
      exact hfits

/-- A call that takes its place in line stands behind the head. -/
theorem lineUp (orderly : calling.Orderly) (id : Nat) :
    ({ calling with line := calling.line ++ [id] } : Calling).Orderly where
  numbered := orderly.numbered
  holding := by
    intro other hother hunderway
    rw [List.head?_append, orderly.holding other hother hunderway]
    rfl
  fitting := orderly.fitting

/-- The head of the line is alone under way. -/
theorem alone (orderly : calling.Orderly) (hhead : calling.line.head? = some id) :
    ∀ other ∈ calling.calls, other.phase.isUnderway = true → other.id = id :=
  fun other hother hunderway =>
    Option.some.inj ((orderly.holding other hother hunderway).symm.trans hhead)

/-- The head of the line goes on with its operation. -/
theorem proceed (orderly : calling.Orderly) (hcall : calling.call? id = some call)
    (hhead : calling.line.head? = some id) {fleet : Fleet}
    (hsize : fleet.members.length = calling.fleet.members.length) (phase : CallPhase)
    (hphase : phase.isUnderway = true) (hfits : { call with phase }.Fits fleet.members.length) :
    (({ calling with fleet } : Calling).setPhase id phase).Orderly ∧
      (({ calling with fleet } : Calling).setPhase id phase).underway? =
        some { call with phase } := by
  have hcall : ({ calling with fleet } : Calling).call? id = some call := hcall
  refine ⟨(orderly.withFleet hsize).setPhase hcall phase hfits fun _ => hhead, ?_⟩
  rw [underway?_setPhase hcall (orderly.alone hhead), hphase]
  rfl

/-- The head of the line is finished, and no call is under way. -/
theorem conclude (orderly : calling.Orderly) (hcall : calling.call? id = some call)
    (hhead : calling.line.head? = some id) {fleet : Fleet}
    (hsize : fleet.members.length = calling.fleet.members.length)
    (result : Except Error Unit) :
    (({ calling with fleet } : Calling).finish id result).Orderly ∧
      (({ calling with fleet } : Calling).finish id result).underway? = none := by
  have hcall : ({ calling with fleet } : Calling).call? id = some call := hcall
  exact ⟨(orderly.withFleet hsize).finish hcall (orderly.alone hhead) result,
    underway?_setPhase hcall (orderly.alone hhead) (.finished result)⟩

end Orderly

end Calling

end FleetControl
