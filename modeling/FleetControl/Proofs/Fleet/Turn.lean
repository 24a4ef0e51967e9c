import FleetControl.Proofs.Fleet.Ledger
import FleetControl.Proofs.Fleet.Lock
import FleetControl.Proofs.Fleet.Watch

/-!
# The turns of the calls

Every step of the calls is one of a few turns, and each turn concerns the fleet and the one call
that is under way; whatever waits in line has no part in it. What else the system does goes on
aside of the calls.
-/

namespace FleetControl

/-- A transition of a member that a call records: the member's slot and the kind. -/
abbrev Mark := Nat × TransitionKind

namespace Calling

/-- What the engine says to a call with an event. -/
def heard (calling : Calling) : Event → List EngineNote
  | .launched id (.ok _) =>
      match calling.call? id with
      | some call => [.handed (slotOf call.operation) calling.fleet.launches]
      | none => []
  | .ended _ handle => [.ended handle]
  | _ => []

/-- The transition that a call records with an event. -/
def recorded? (calling : Calling) : Event → Option Mark
  | .advance id => do
      let call ← calling.call? id
      match call.phase, call.operation with
      | .cooling due, .stop slot =>
          if due ≤ calling.fleet.clock.instant then
            (calling.fleet.process? slot).map fun _ => (slot, .stop)
          else none
      | .emptying (slot :: _) _, _ =>
          (calling.fleet.process? slot).map fun _ => (slot, .shutdown)
      | _, _ => none
  | .ready id (.ok ()) => do
      let call ← calling.call? id
      let .awaiting _ := call.phase | none
      some (slotOf call.operation, .restart)
  | _ => none

end Calling

/-- What one step of the calls does to the fleet and to the call that is under way, with what the
engine says, what is commanded, and the transition that is recorded. -/
inductive Turn (fleet : Fleet) : Option Call → List EngineNote → List Command → Option Mark →
    Fleet → Option Call → Prop where
  /-- Calls come, wait or go without having touched anything. -/
  | rest {underway : Option Call} : Turn fleet underway [] [] none fleet underway
  /-- The first shutdown is made. -/
  | signal {underway : Option Call} :
      Turn fleet underway [] [] none
        { fleet with shutDown := true, rootFired := true, stopFired := true } underway
  /-- A stop takes the lock and lets its member cool down. -/
  | coolStop {id slot : Nat} {handle : Handle} (hprocess : fleet.process? slot = some handle) :
      Turn fleet none [] [] none fleet
        (some ⟨id, .stop slot, .cooling (Calling.cooledAt fleet slot)⟩)
  /-- A restart takes the lock and lets its member cool down. -/
  | coolRestart {id slot : Nat} (hopen : fleet.shutDown = false)
      (hprocess : fleet.process? slot = none) (hslot : slot < fleet.members.length) :
      Turn fleet none [] [] none fleet
        (some ⟨id, .restart slot, .cooling (Calling.cooledAt fleet slot)⟩)
  /-- A shutdown takes the lock. -/
  | empty {id : Nat} :
      Turn fleet none [] [] none fleet
        (some ⟨id, .shutdown, .emptying (List.range fleet.slots.length) []⟩)
  /-- A member is stopped after its cooldown. -/
  | stop {id slot : Nat} {due : Nanos} {handle : Handle} (hdue : due ≤ fleet.clock.instant)
      (hprocess : fleet.process? slot = some handle) :
      Turn fleet (some ⟨id, .stop slot, .cooling due⟩) [] (teardown slot handle)
        (some (slot, .stop)) (fleet.release slot .stop)
        (some ⟨id, .stop slot, .ending handle (.ok ())⟩)
  /-- A stop finds nothing to stop after the cooldown. -/
  | vanish {id slot : Nat} {due : Nanos} (hprocess : fleet.process? slot = none) :
      Turn fleet (some ⟨id, .stop slot, .cooling due⟩) [] [] none fleet none
  /-- A process is launched after its member's cooldown. -/
  | launch {id slot : Nat} {due : Nanos} {member : Member} (hdue : due ≤ fleet.clock.instant)
      (hmember : fleet.member? slot = some member) :
      Turn fleet (some ⟨id, .restart slot, .cooling due⟩) []
        [.launch slot { member.config with initialClusterState := .existing }] none fleet
        (some ⟨id, .restart slot, .launching⟩)
  /-- The engine refuses. -/
  | refuse {id slot : Nat} :
      Turn fleet (some ⟨id, .restart slot, .launching⟩) [] [] none fleet none
  /-- The engine hands out a process. -/
  | hand {id slot : Nat} {config : MemberConfig} :
      Turn fleet (some ⟨id, .restart slot, .launching⟩) [.handed slot fleet.launches]
        [.awaitReady slot fleet.launches] none
        { fleet.changeMember slot (·.setConfig config) with launches := fleet.launches + 1 }
        (some ⟨id, .restart slot, .awaiting fleet.launches⟩)
  /-- The launched process is given up: it never becomes ready, or the root signal fired. -/
  | giveUp {id slot : Nat} {handle : Handle} {error : Error} :
      Turn fleet (some ⟨id, .restart slot, .awaiting handle⟩) [] (teardown slot handle) none fleet
        (some ⟨id, .restart slot, .ending handle (.error error)⟩)
  /-- The launched process is ready. -/
  | ready {id slot : Nat} {handle : Handle} (hslot : slot < fleet.members.length) :
      Turn fleet (some ⟨id, .restart slot, .awaiting handle⟩) [] [] (some (slot, .restart))
        (fleet.occupy slot handle) none
  /-- The process that a stop or a failed restart tore down has ended. -/
  | ended {id : Nat} {operation : Operation} {handle : Handle} {result : Except Error Unit} :
      Turn fleet (some ⟨id, operation, .ending handle result⟩) [.ended handle] [] none fleet none
  /-- A shutdown passes an empty slot. -/
  | pass {id slot : Nat} {left : List Nat} {alive : List Handle}
      (hprocess : fleet.process? slot = none) :
      Turn fleet (some ⟨id, .shutdown, .emptying (slot :: left) alive⟩) [] [] none fleet
        (some ⟨id, .shutdown, .emptying left alive⟩)
  /-- A shutdown empties a slot. -/
  | clear {id slot : Nat} {left : List Nat} {alive : List Handle} {handle : Handle}
      (hprocess : fleet.process? slot = some handle) :
      Turn fleet (some ⟨id, .shutdown, .emptying (slot :: left) alive⟩) [] (teardown slot handle)
        (some (slot, .shutdown)) (fleet.release slot .shutdown)
        (some ⟨id, .shutdown, .emptying left (alive ++ [handle])⟩)
  /-- A process that a shutdown tore down has ended. -/
  | clearEnded {id : Nat} {left : List Nat} {alive : List Handle} {handle : Handle}
      (halive : handle ∈ alive) :
      Turn fleet (some ⟨id, .shutdown, .emptying left alive⟩) [.ended handle] [] none fleet
        (some ⟨id, .shutdown, .emptying left (alive.erase handle)⟩)
  /-- A shutdown is finished: it has removed the directory. -/
  | cleared {id : Nat} :
      Turn fleet (some ⟨id, .shutdown, .emptying [] []⟩) [] [] none
        { fleet with files := (fleet.files.removeDirectory fleet.rootDir).1 } none

namespace Calling

variable {calling next : Calling} {id : Nat}

theorem turn_of_make (orderly : calling.Orderly) (operation : Operation) :
    (calling.make operation).Orderly ∧
      Turn calling.fleet calling.underway? [] [] none (calling.make operation).fleet
        (calling.make operation).underway? := by
  have hunderway : ∀ (phase : CallPhase) {fleet : Fleet} {line : List Nat},
      phase.isUnderway = false →
      underway? { fleet, calls := calling.calls ++ [⟨calling.made, operation, phase⟩], line,
                  made := calling.made + 1 } = calling.underway? := by
    intro phase fleet line hphase
    simp [underway?, hphase]
  have hline : ∀ id, calling.line.head? = some id →
      (calling.line ++ [calling.made]).head? = some id := by
    intro id hhead
    rw [List.head?_append, hhead]
    rfl
  cases operation with
  | stop slot =>
      unfold make
      dsimp only
      split
      next hslot =>
        exact ⟨orderly.enter rfl hslot rfl hline, hunderway .queued rfl ▸ .rest⟩
      next =>
        exact ⟨orderly.enter rfl trivial rfl fun _ => id,
          hunderway (.finished _) rfl ▸ .rest⟩
  | restart slot =>
      unfold make
      dsimp only
      split
      next hslot =>
        exact ⟨orderly.enter rfl hslot rfl hline, hunderway .queued rfl ▸ .rest⟩
      next =>
        exact ⟨orderly.enter rfl trivial rfl fun _ => id,
          hunderway (.finished _) rfl ▸ .rest⟩
  | shutdown =>
      unfold make
      dsimp only
      split
      next =>
        exact ⟨orderly.enter rfl trivial rfl fun _ => id,
          hunderway (.finished _) rfl ▸ .rest⟩
      next =>
        exact ⟨orderly.enter rfl trivial rfl fun _ => id,
          hunderway .draining rfl ▸ .signal⟩

/-- A call that takes the lock. -/
theorem turn_of_onLock (orderly : calling.Orderly) {call : Call}
    (hcall : calling.call? id = some call) (hphase : call.phase = .queued)
    (hhead : calling.line.head? = some id) :
    (calling.onLock call).Orderly ∧
      Turn calling.fleet calling.underway? [] [] none (calling.onLock call).fleet
        (calling.onLock call).underway? := by
  have hnone : calling.underway? = none :=
    orderly.underway?_eq_none hcall hhead (by rw [hphase]; rfl)
  have hfits := orderly.fitting call (call?_mem hcall)
  obtain rfl := call?_id hcall
  obtain ⟨id, operation, phase⟩ := call
  subst hphase
  rw [hnone]
  cases operation with
  | stop slot =>
      unfold onLock
      dsimp only
      split
      next =>
        obtain ⟨hnext, hidle⟩ := orderly.conclude hcall hhead rfl (.ok ())
        exact ⟨hnext, hidle ▸ .rest⟩
      next handle hprocess =>
        obtain ⟨hnext, hcooling⟩ := orderly.proceed hcall hhead rfl
          (.cooling (cooledAt calling.fleet slot)) rfl hfits
        exact ⟨hnext, hcooling ▸ .coolStop hprocess⟩
  | restart slot =>
      unfold onLock
      dsimp only
      split
      next =>
        obtain ⟨hnext, hidle⟩ := orderly.conclude hcall hhead rfl (.error .cancelled)
        exact ⟨hnext, hidle ▸ .rest⟩
      next hopen =>
        split
        next =>
          obtain ⟨hnext, hidle⟩ := orderly.conclude hcall hhead rfl (.ok ())
          exact ⟨hnext, hidle ▸ .rest⟩
        next hprocess =>
          obtain ⟨hnext, hcooling⟩ := orderly.proceed hcall hhead rfl
            (.cooling (cooledAt calling.fleet slot)) rfl hfits
          exact ⟨hnext, hcooling ▸ .coolRestart (Bool.not_eq_true _ ▸ hopen) hprocess hfits⟩
  | shutdown =>
      obtain ⟨hnext, hemptying⟩ := orderly.proceed hcall hhead rfl
        (.emptying (List.range calling.fleet.slots.length) []) rfl trivial
      exact ⟨hnext, hemptying ▸ .empty⟩

/-- A call whose member has cooled down. -/
theorem turn_of_onCooled (orderly : calling.Orderly) {call : Call} {due : Nanos}
    {commands : List Command} (hcall : calling.call? id = some call)
    (hphase : call.phase = .cooling due) (hdue : due ≤ calling.fleet.clock.instant)
    (hstep : calling.onCooled call = (next, commands)) :
    next.Orderly ∧
      Turn calling.fleet calling.underway? [] commands (calling.recorded? (.advance id))
        next.fleet next.underway? := by
  have hunderway := orderly.underway?_eq (call?_mem hcall) (by rw [hphase]; rfl)
  have hhead := orderly.holding call (call?_mem hcall) (by rw [hphase]; rfl)
  have hfits := orderly.fitting call (call?_mem hcall)
  obtain rfl := call?_id hcall
  obtain ⟨id, operation, phase⟩ := call
  subst hphase
  rw [hunderway]
  cases operation with
  | stop slot =>
      unfold onCooled at hstep
      dsimp only at hstep
      cases hprocess : calling.fleet.process? slot with
      | none =>
          rw [hprocess] at hstep
          obtain ⟨rfl, rfl⟩ := Prod.mk.inj hstep
          have hmark : calling.recorded? (.advance id) = none := by
            simp [recorded?, hcall, hprocess]
          obtain ⟨hnext, hidle⟩ := orderly.conclude hcall hhead rfl (.ok ())
          rw [hmark]
          exact ⟨hnext, hidle ▸ .vanish hprocess⟩
      | some handle =>
          rw [hprocess] at hstep
          obtain ⟨rfl, rfl⟩ := Prod.mk.inj hstep
          have hmark : calling.recorded? (.advance id) = some (slot, .stop) := by
            simp [recorded?, hcall, hprocess, hdue]
          have hsize := calling.fleet.size_release slot .stop
          obtain ⟨hnext, hending⟩ := orderly.proceed hcall hhead hsize
            (.ending handle (.ok ())) rfl (hsize ▸ hfits)
          rw [hmark]
          exact ⟨hnext, hending ▸ .stop hdue hprocess⟩
  | restart slot =>
      have hmark : calling.recorded? (.advance id) = none := by simp [recorded?, hcall]
      unfold onCooled at hstep
      dsimp only at hstep
      have hslot : slot < calling.fleet.members.length := hfits
      obtain ⟨member, hmember⟩ := Fleet.exists_member? hslot
      rw [hmember] at hstep
      obtain ⟨rfl, rfl⟩ := Prod.mk.inj hstep
      obtain ⟨hnext, hlaunching⟩ := orderly.proceed hcall hhead rfl
        .launching rfl hfits
      rw [hmark]
      exact ⟨hnext, hlaunching ▸ .launch hdue hmember⟩
  | shutdown => exact hfits.elim

/-- A shutdown goes on through the slots. -/
theorem turn_of_emptying (orderly : calling.Orderly) {call : Call} {left : List Nat}
    {alive : List Handle} (hcall : calling.call? id = some call)
    (hphase : call.phase = .emptying left alive) {commands : List Command}
    (hstep : calling.advance? id = some (next, commands)) :
    next.Orderly ∧
      Turn calling.fleet calling.underway? [] commands (calling.recorded? (.advance id))
        next.fleet next.underway? := by
  have hfits := orderly.fitting call (call?_mem hcall)
  have hunderway := orderly.underway?_eq (call?_mem hcall) (by rw [hphase]; rfl)
  have hhead := orderly.holding call (call?_mem hcall) (by rw [hphase]; rfl)
  obtain rfl := call?_id hcall
  obtain ⟨id, operation, phase⟩ := call
  subst hphase
  obtain rfl : operation = .shutdown := by
    cases operation with
    | shutdown => rfl
    | stop slot => exact hfits.elim
    | restart slot => exact hfits.elim
  unfold advance? at hstep
  simp only [hcall, Option.bind_eq_bind, Option.bind_some] at hstep
  rw [hunderway]
  cases left with
  | nil =>
      cases alive with
      | nil =>
          have hmark : calling.recorded? (.advance id) = none := by simp [recorded?, hcall]
          obtain ⟨rfl, rfl⟩ := Prod.mk.inj (Option.some.inj hstep)
          have hsize : ({ calling.fleet with
              files := (calling.fleet.files.removeDirectory calling.fleet.rootDir).1 } :
                Fleet).members.length = calling.fleet.members.length := rfl
          obtain ⟨hnext, hidle⟩ := orderly.conclude hcall hhead hsize
            (calling.fleet.files.removeDirectory calling.fleet.rootDir).2
          rw [hmark]
          exact ⟨hnext, hidle ▸ .cleared⟩
      | cons handle alive => simp at hstep
  | cons slot left =>
      dsimp only at hstep
      cases hprocess : calling.fleet.process? slot with
      | none =>
          have hmark : calling.recorded? (.advance id) = none := by
            simp [recorded?, hcall, hprocess]
          rw [hprocess] at hstep
          obtain ⟨rfl, rfl⟩ := Prod.mk.inj (Option.some.inj hstep)
          obtain ⟨hnext, hemptying⟩ := orderly.proceed hcall hhead rfl
            (.emptying left alive) rfl trivial
          rw [hmark]
          exact ⟨hnext, hemptying ▸ .pass hprocess⟩
      | some handle =>
          have hmark : calling.recorded? (.advance id) = some (slot, .shutdown) := by
            simp [recorded?, hcall, hprocess]
          rw [hprocess] at hstep
          obtain ⟨rfl, rfl⟩ := Prod.mk.inj (Option.some.inj hstep)
          obtain ⟨hnext, hemptying⟩ := orderly.proceed hcall hhead
            (calling.fleet.size_release slot .shutdown)
            (.emptying left (alive ++ [handle])) rfl trivial
          rw [hmark]
          exact ⟨hnext, hemptying ▸ .clear hprocess⟩

/-- A step that a call takes by itself. -/
theorem turn_of_advance (orderly : calling.Orderly) {commands : List Command}
    (hstep : calling.advance? id = some (next, commands)) :
    next.Orderly ∧
      Turn calling.fleet calling.underway? [] commands (calling.recorded? (.advance id))
        next.fleet next.underway? := by
  have hadvance := hstep
  unfold advance? at hstep
  simp only [Option.bind_eq_bind, Option.bind_eq_some_iff] at hstep
  obtain ⟨call, hcall, hstep⟩ := hstep
  have hfits := orderly.fitting call (call?_mem hcall)
  cases hphase : call.phase with
  | draining =>
      have hmark : calling.recorded? (.advance id) = none := by
        simp [recorded?, hcall, hphase]
      simp only [hphase, Option.ite_none_right_eq_some, Option.some.injEq] at hstep
      obtain ⟨-, hstep⟩ := hstep
      obtain ⟨rfl, rfl⟩ := Prod.mk.inj hstep
      have hqueued : { call with phase := .queued }.Fits calling.fleet.members.length := by
        obtain ⟨id, operation, phase⟩ := call
        subst hphase
        cases operation with
        | shutdown => trivial
        | stop slot => exact hfits.elim
        | restart slot => exact hfits.elim
      have hwaits : call.phase.isUnderway = false := by rw [hphase]; rfl
      have hnext :=
        (orderly.setPhase hcall .queued hqueued (by simp [CallPhase.isUnderway])).lineUp id
      have hsame := orderly.underway?_setPhase_of_waits hcall hwaits .queued rfl
      rw [hmark]
      exact ⟨hnext, hsame ▸ .rest⟩
  | queued =>
      have hmark : calling.recorded? (.advance id) = none := by
        simp [recorded?, hcall, hphase]
      simp only [hphase, Option.ite_none_right_eq_some, Option.some.injEq] at hstep
      obtain ⟨hholds, hstep⟩ := hstep
      obtain ⟨rfl, rfl⟩ := Prod.mk.inj hstep
      rw [hmark]
      exact turn_of_onLock orderly hcall hphase (by simpa [holds] using hholds)
  | cooling due =>
      simp only [hphase, Option.ite_none_right_eq_some, Option.some.injEq] at hstep
      exact turn_of_onCooled orderly hcall hphase hstep.1 hstep.2
  | emptying left alive => exact turn_of_emptying orderly hcall hphase hadvance
  | launching => simp [hphase] at hstep
  | awaiting handle => simp [hphase] at hstep
  | ending handle result => simp [hphase] at hstep
  | finished result => simp [hphase] at hstep

/-- The launch that a restart waits for has ended. -/
theorem turn_of_launched (orderly : calling.Orderly) {outcome : Except Error MemberConfig}
    {commands : List Command} (hstep : calling.launched? id outcome = some (next, commands)) :
    next.Orderly ∧
      Turn calling.fleet calling.underway? (calling.heard (.launched id outcome)) commands none
        next.fleet next.underway? := by
  unfold launched? at hstep
  simp only [Option.bind_eq_bind, Option.bind_eq_some_iff] at hstep
  obtain ⟨call, hcall, hstep⟩ := hstep
  split at hstep
  next hphase =>
    have hunderway := orderly.underway?_eq (call?_mem hcall) (by rw [hphase]; rfl)
    have hhead := orderly.holding call (call?_mem hcall) (by rw [hphase]; rfl)
    have hfits := orderly.fitting call (call?_mem hcall)
    obtain rfl := call?_id hcall
    obtain ⟨id, operation, phase⟩ := call
    subst hphase
    rw [hunderway]
    cases operation with
    | stop slot => exact hfits.elim
    | shutdown => exact hfits.elim
    | restart slot =>
        cases outcome with
        | error error =>
            obtain ⟨rfl, rfl⟩ := Prod.mk.inj (Option.some.inj hstep)
            obtain ⟨hnext, hidle⟩ := orderly.conclude hcall hhead rfl (.error error)
            exact ⟨hnext, hidle ▸ .refuse⟩
        | ok config =>
            have hheard : calling.heard (.launched id (.ok config)) =
                [.handed slot calling.fleet.launches] := by
              simp [heard, hcall, slotOf]
            obtain ⟨rfl, rfl⟩ := Prod.mk.inj (Option.some.inj hstep)
            have hsize : ({ calling.fleet.changeMember slot (·.setConfig config) with
                launches := calling.fleet.launches + 1 } : Fleet).members.length =
                  calling.fleet.members.length :=
              calling.fleet.size_changeMember slot (·.setConfig config)
            obtain ⟨hnext, hawaiting⟩ := orderly.proceed hcall hhead hsize
              (.awaiting calling.fleet.launches) rfl (hsize ▸ hfits)
            rw [hheard]
            exact ⟨hnext, hawaiting ▸ .hand⟩
  next => simp at hstep

/-- A restart gives up the process it has launched. -/
theorem turn_of_giveUp (orderly : calling.Orderly) {call : Call} {handle : Handle}
    {error : Error} (hcall : calling.call? id = some call)
    (hphase : call.phase = .awaiting handle) :
    (calling.endProcess id (slotOf call.operation) handle (.error error)).1.Orderly ∧
      Turn calling.fleet calling.underway? []
        (calling.endProcess id (slotOf call.operation) handle (.error error)).2 none
        calling.fleet
        (calling.endProcess id (slotOf call.operation) handle (.error error)).1.underway? := by
  have hunderway := orderly.underway?_eq (call?_mem hcall) (by rw [hphase]; rfl)
  have hhead := orderly.holding call (call?_mem hcall) (by rw [hphase]; rfl)
  have hfits := orderly.fitting call (call?_mem hcall)
  obtain rfl := call?_id hcall
  obtain ⟨id, operation, phase⟩ := call
  subst hphase
  rw [hunderway]
  cases operation with
  | stop slot => exact hfits.elim
  | shutdown => exact hfits.elim
  | restart slot =>
      obtain ⟨hnext, hending⟩ := orderly.proceed hcall hhead rfl
        (.ending handle (.error error)) rfl hfits
      exact ⟨hnext, hending ▸ .giveUp⟩

/-- The process that a restart has launched is ready, or never will be. -/
theorem turn_of_ready (orderly : calling.Orderly) {outcome : Except Error Unit}
    {commands : List Command} (hstep : calling.ready? id outcome = some (next, commands)) :
    next.Orderly ∧
      Turn calling.fleet calling.underway? [] commands (calling.recorded? (.ready id outcome))
        next.fleet next.underway? := by
  unfold ready? at hstep
  simp only [Option.bind_eq_bind, Option.bind_eq_some_iff] at hstep
  obtain ⟨call, hcall, hstep⟩ := hstep
  split at hstep
  next handle hphase =>
    cases outcome with
    | error error =>
        obtain ⟨rfl, rfl⟩ := Prod.mk.inj (Option.some.inj hstep)
        exact turn_of_giveUp orderly hcall hphase
    | ok =>
        have hunderway := orderly.underway?_eq (call?_mem hcall) (by rw [hphase]; rfl)
        have hhead := orderly.holding call (call?_mem hcall) (by rw [hphase]; rfl)
        have hfits := orderly.fitting call (call?_mem hcall)
        obtain rfl := call?_id hcall
        obtain ⟨id, operation, phase⟩ := call
        subst hphase
        rw [hunderway]
        cases operation with
        | stop slot => exact hfits.elim
        | shutdown => exact hfits.elim
        | restart slot =>
            have hmark : calling.recorded? (.ready id (.ok ())) = some (slot, .restart) := by
              simp [recorded?, hcall, slotOf]
            obtain ⟨rfl, rfl⟩ := Prod.mk.inj (Option.some.inj hstep)
            obtain ⟨hnext, hidle⟩ := orderly.conclude hcall hhead
              (calling.fleet.size_occupy slot handle) (.ok ())
            rw [hmark]
            exact ⟨hnext, hidle ▸ .ready hfits⟩
  next => simp at hstep

/-- A restart sees the root signal. -/
theorem turn_of_abandoned (orderly : calling.Orderly) {commands : List Command}
    (hstep : calling.abandoned? id = some (next, commands)) :
    next.Orderly ∧
      Turn calling.fleet calling.underway? [] commands none next.fleet next.underway? := by
  unfold abandoned? at hstep
  simp only [Option.bind_eq_bind, Option.bind_eq_some_iff] at hstep
  obtain ⟨call, hcall, hstep⟩ := hstep
  split at hstep
  next handle hphase =>
    simp only [Option.ite_none_right_eq_some, Option.some.injEq] at hstep
    obtain ⟨rfl, rfl⟩ := Prod.mk.inj hstep.2
    exact turn_of_giveUp orderly hcall hphase
  next => simp at hstep

/-- A process that a call waits for has ended. -/
theorem turn_of_ended (orderly : calling.Orderly) {handle : Handle}
    (hstep : calling.ended? id handle = some next) :
    next.Orderly ∧
      Turn calling.fleet calling.underway? [.ended handle] [] none next.fleet
        next.underway? := by
  unfold ended? at hstep
  simp only [Option.bind_eq_bind, Option.bind_eq_some_iff] at hstep
  obtain ⟨call, hcall, hstep⟩ := hstep
  split at hstep
  next awaited result hphase =>
    simp only [Option.ite_none_right_eq_some, Option.some.injEq] at hstep
    obtain ⟨rfl, rfl⟩ := hstep
    have hunderway := orderly.underway?_eq (call?_mem hcall) (by rw [hphase]; rfl)
    have hhead := orderly.holding call (call?_mem hcall) (by rw [hphase]; rfl)
    obtain rfl := call?_id hcall
    obtain ⟨hnext, hidle⟩ := orderly.conclude hcall hhead rfl result
    obtain ⟨id, operation, phase⟩ := call
    subst hphase
    rw [hunderway]
    exact ⟨hnext, hidle ▸ .ended⟩
  next left alive hphase =>
    simp only [Option.ite_none_right_eq_some, Option.some.injEq] at hstep
    obtain ⟨halive, rfl⟩ := hstep
    have hunderway := orderly.underway?_eq (call?_mem hcall) (by rw [hphase]; rfl)
    have hhead := orderly.holding call (call?_mem hcall) (by rw [hphase]; rfl)
    have hfits := orderly.fitting call (call?_mem hcall)
    obtain rfl := call?_id hcall
    obtain ⟨id, operation, phase⟩ := call
    subst hphase
    rw [hunderway]
    cases operation with
    | stop slot => exact hfits.elim
    | restart slot => exact hfits.elim
    | shutdown =>
        obtain ⟨hnext, hemptying⟩ := orderly.proceed hcall hhead rfl
          (.emptying left (alive.erase handle)) rfl trivial
        exact ⟨hnext, hemptying ▸ .clearEnded halive⟩
  next => simp at hstep

end Calling

end FleetControl
