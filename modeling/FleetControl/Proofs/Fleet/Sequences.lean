import FleetControl.Proofs.Fleet.Ownership
import FleetControl.Proofs.Fleet.Stride
import Mathlib.Algebra.BigOperators.Group.Multiset.Basic
import Mathlib.Algebra.Order.BigOperators.Group.List
import Mathlib.Algebra.Order.Group.Multiset
import Mathlib.Algebra.Order.Group.Nat
import Mathlib.Data.Multiset.Bind
import Mathlib.Tactic.Abel

/-!
# Open sequences

A start of a process is open from its handing out until the process is ready, and a teardown from
the hard stop until the process has ended. Every step of the controller is balanced: what is open
after it, together with what it completed, is what was open before together with what it began. One
step alone loses a start: a restart that sees the root signal gives up a process that was not ready,
and its teardown takes the place of a start that nobody completes any more.
-/

namespace FleetControl

/-- How many teardowns these commands begin. -/
def hardStops (commands : List Command) : Nat :=
  commands.countP fun
    | .hardStop .. => true
    | _ => false

/-- The slot that a command launches. -/
def Command.launchSlot : Command → Multiset Nat
  | .launch slot _ => {slot}
  | _ => 0

/-- The slots that these commands launch. -/
def launchSlots (commands : List Command) : Multiset Nat :=
  (commands.map Command.launchSlot).sum

@[simp] theorem hardStops_nil : hardStops [] = 0 := rfl

@[simp] theorem hardStops_teardown (slot : Nat) (handle : Handle) :
    hardStops (teardown slot handle) = 1 := rfl

@[simp] theorem hardStops_cons (command : Command) (rest : List Command) :
    hardStops (command :: rest) = hardStops [command] + hardStops rest := by
  rw [← List.singleton_append, hardStops, List.countP_append]
  rfl

theorem hardStops_eq_zero {commands : List Command}
    (hnone : ∀ slot handle, .hardStop slot handle ∉ commands) : hardStops commands = 0 := by
  apply List.countP_eq_zero.mpr
  intro command hmem hstop
  cases command with
  | hardStop slot handle => exact hnone slot handle hmem
  | launch | awaitReady | close | awaitEnd | query | probe => simp at hstop

theorem launchSlots_eq_zero {commands : List Command}
    (hnone : ∀ slot config, .launch slot config ∉ commands) : launchSlots commands = 0 := by
  apply List.sum_eq_zero
  intro slots hslots
  obtain ⟨command, hmem, rfl⟩ := List.mem_map.mp hslots
  cases command with
  | launch slot config => exact absurd hmem (hnone slot config)
  | hardStop | awaitReady | close | awaitEnd | query | probe => rfl

/-- How many sequences an event completes: a process is ready, or has ended. -/
def Event.completions : Event → Nat
  | .ready .. => 1
  | .ended .. => 1
  | _ => 0

/-- How many starts begin with an answer of the engine: it hands out a process, or refuses. -/
def handedOut : Except Error MemberConfig → Nat
  | .ok _ => 1
  | .error _ => 0

/-- How many starts begin with an event. -/
def Event.handouts : Event → Nat
  | .launched _ outcome => handedOut outcome
  | _ => 0

/-- How many starts are given up with an event. -/
def Event.abandonments : Event → Nat
  | .abandoned _ => 1
  | _ => 0

/-- How many sequences are open in a phase of a call. -/
def CallPhase.sequences : CallPhase → Nat
  | .awaiting _ => 1
  | .ending .. => 1
  | .emptying _ alive => alive.length
  | .draining => 0
  | .queued => 0
  | .cooling _ => 0
  | .launching => 0
  | .finished _ => 0

/-- The slot for which a call waits for the engine. -/
def Call.launching (call : Call) : Multiset Nat :=
  match call.phase with
  | .launching => {Calling.slotOf call.operation}
  | _ => 0

theorem CallPhase.sequences_of_waits {phase : CallPhase} (hwaits : phase.isUnderway = false) :
    phase.sequences = 0 := by
  cases phase with
  | draining | queued | finished => rfl
  | cooling | launching | awaiting | ending | emptying => simp [isUnderway] at hwaits

theorem Call.launching_of_ne {call : Call} (hphase : call.phase ≠ .launching) :
    call.launching = 0 := by
  unfold launching
  split
  next hlaunching => exact absurd hlaunching hphase
  next => rfl

theorem Call.launching_of_waits {call : Call} (hwaits : call.phase.isUnderway = false) :
    call.launching = 0 :=
  launching_of_ne fun hphase => by simp [hphase, CallPhase.isUnderway] at hwaits

namespace Calling

variable {calling next : Calling} {call : Call} {id : Nat} {event : Event}
  {commands : List Command} {α : Type}

/-- What the calls come to together. -/
def total [AddCommMonoid α] (calling : Calling) (measure : Call → α) : α :=
  (calling.calls.map measure).sum

/-- The slot whose launch is answered with an event. -/
def answered (calling : Calling) : Event → Multiset Nat
  | .launched id _ => (calling.call? id).elim 0 fun call => {slotOf call.operation}
  | _ => 0

theorem Orderly.call?_of_mem (orderly : calling.Orderly) (hmem : call ∈ calling.calls) :
    calling.call? call.id = some call := by
  obtain ⟨found, hfound⟩ : ∃ found, calling.call? call.id = some found :=
    Option.isSome_iff_exists.mp (List.find?_isSome.mpr ⟨call, hmem, by simp⟩)
  rw [hfound, orderly.eq_of_id_eq (call?_mem hfound) hmem (call?_id hfound)]

/-- A call that goes into another phase changes the whole by what it changes itself. -/
theorem Orderly.total_setPhase [AddCommMonoid α] (orderly : calling.Orderly)
    (hcall : calling.call? id = some call) (phase : CallPhase) (measure : Call → α) :
    (calling.setPhase id phase).total measure + measure call =
      calling.total measure + measure { call with phase } := by
  obtain ⟨hid, early, late, hcalls, hearly⟩ := List.find?_eq_some_iff_append.mp hcall
  have hid : call.id = id := of_decide_eq_true hid
  have hearly : ∀ other ∈ early, other.id ≠ id := by simpa using hearly
  have hlate : ∀ other ∈ late, other.id ≠ id := by
    have hnodup : (calling.calls.map (·.id)).Nodup := orderly.numbered ▸ List.nodup_range
    rw [hcalls, List.map_append, List.map_cons, List.nodup_append] at hnodup
    intro other hother hsame
    apply (List.nodup_cons.mp hnodup.2.1).1
    exact List.mem_map.mpr ⟨other, hother, hsame.trans hid.symm⟩
  have hkept : ∀ calls : List Call, (∀ other ∈ calls, other.id ≠ id) →
      calls.map (fun call => if call.id = id then { call with phase } else call) = calls :=
    fun calls hothers =>
      (List.map_congr_left fun other hother => if_neg (hothers other hother)).trans
        (List.map_id calls)
  simp only [total, Calling.setPhase, hcalls, List.map_append, List.map_cons, hkept early hearly,
    hkept late hlate, if_pos hid, List.sum_append, List.sum_cons]
  abel

/-- What only a call under way comes to is what all calls come to together. -/
theorem Orderly.total_eq [AddCommMonoid α] (orderly : calling.Orderly) {measure : Call → α}
    (hwaits : ∀ call, call.phase.isUnderway = false → measure call = 0) :
    calling.total measure = calling.underway?.elim 0 measure := by
  have hnone : ∀ calls : List Call, (∀ call ∈ calls, call.phase.isUnderway = false) →
      (calls.map measure).sum = 0 := by
    intro calls hcalls
    apply List.sum_eq_zero
    intro value hvalue
    obtain ⟨call, hmem, rfl⟩ := List.mem_map.mp hvalue
    exact hwaits call (hcalls call hmem)
  cases hfound : calling.underway? with
  | none => exact hnone _ fun call hmem => by simpa using List.find?_eq_none.mp hfound call hmem
  | some call =>
      -- Those before it wait because it was found first, those after it because it has the lock.
      obtain ⟨-, early, late, hcalls, hearly⟩ := List.find?_eq_some_iff_append.mp hfound
      have hnodup : calling.calls.Nodup :=
        .of_map (·.id) (orderly.numbered ▸ List.nodup_range)
      have hlate : ∀ other ∈ late, other.phase.isUnderway = false := by
        intro other hother
        by_contra hunderway
        have hmem : other ∈ calling.calls := by simp [hcalls, hother]
        have hsame := orderly.underway?_eq hmem (Bool.not_eq_false _ ▸ hunderway)
        obtain rfl := Option.some.inj (hfound.symm.trans hsame)
        rw [hcalls] at hnodup
        exact (List.nodup_cons.mp (List.nodup_append.mp hnodup).2.1).1 hother
      have hearly := hnone early fun other hother => by simpa using hearly other hother
      simp [total, hcalls, hearly, hnone late hlate]

/-- What a step of the calls begins and completes. -/
structure Balances (calling : Calling) (event : Event) (commands : List Command)
    (next : Calling) : Prop where
  sequences : next.total (·.phase.sequences) + (event.completions + event.abandonments) =
    calling.total (·.phase.sequences) + (event.handouts + hardStops commands)
  launching : next.total Call.launching + calling.answered event =
    calling.total Call.launching + launchSlots commands

namespace Balances

/-- Where no call goes on, nothing begins and nothing is complete. -/
theorem of_calls_eq (hcalls : next.calls = calling.calls)
    (hevent : event.completions + event.abandonments = event.handouts)
    (hanswered : calling.answered event = 0) (hstops : hardStops commands = 0)
    (hlaunches : launchSlots commands = 0) : Balances calling event commands next where
  sequences := by rw [total, hcalls, hevent, hstops, ← total, add_zero]
  launching := by rw [total, hcalls, hanswered, hlaunches, ← total]

/-- A call goes into another phase. -/
theorem of_setPhase (orderly : calling.Orderly) (hcall : calling.call? id = some call)
    {phase : CallPhase} (hnext : next.calls = (calling.setPhase id phase).calls)
    (hsequences : phase.sequences + (event.completions + event.abandonments) =
      call.phase.sequences + (event.handouts + hardStops commands))
    (hlaunching : Call.launching { call with phase } + calling.answered event =
      call.launching + launchSlots commands) : Balances calling event commands next where
  sequences := by
    have htotal := orderly.total_setPhase hcall phase (·.phase.sequences)
    rw [total, ← hnext, ← total] at htotal
    dsimp only at htotal
    omega
  launching := by
    have htotal := orderly.total_setPhase hcall phase Call.launching
    rw [total, ← hnext, ← total] at htotal
    apply add_right_cancel (b := call.launching)
    rw [add_right_comm, htotal, add_assoc, hlaunching]
    abel

/-- A call that has nothing to do with the engine's answer goes into another phase. -/
theorem of_phases (orderly : calling.Orderly) (hcall : calling.call? id = some call)
    {old phase : CallPhase} (hphase : call.phase = old) (hold : old ≠ .launching)
    (hnew : phase ≠ .launching) (hnext : next.calls = (calling.setPhase id phase).calls)
    (hsequences : phase.sequences + (event.completions + event.abandonments) =
      old.sequences + (event.handouts + hardStops commands))
    (hanswered : calling.answered event = 0) (hlaunches : launchSlots commands = 0) :
    Balances calling event commands next := by
  subst hphase
  apply of_setPhase orderly hcall hnext hsequences
  rw [Call.launching_of_ne hnew, Call.launching_of_ne hold, hanswered, hlaunches]

theorem of_make (calling : Calling) (operation : Operation) :
    Balances calling (.call operation) [] (calling.make operation) := by
  have hwaits : ∀ (phase : CallPhase) {fleet : Fleet} {line : List Nat},
      phase.isUnderway = false → Balances calling (.call operation) []
        { fleet, calls := calling.calls ++ [⟨calling.made, operation, phase⟩], line,
          made := calling.made + 1 } := by
    intro phase fleet line hphase
    have hnone : ∀ {α : Type} [AddCommMonoid α] {measure : Call → α},
        measure ⟨calling.made, operation, phase⟩ = 0 →
        total { fleet, calls := calling.calls ++ [⟨calling.made, operation, phase⟩], line,
                made := calling.made + 1 } measure = calling.total measure := by
      intro α _ measure hmeasure
      simp [total, hmeasure]
    refine ⟨?_, ?_⟩
    · rw [hnone (phase.sequences_of_waits hphase)]
      rfl
    · rw [hnone (Call.launching_of_waits hphase)]
      rfl
  unfold make
  dsimp only
  split
  next => split <;> exact hwaits _ rfl
  next => split <;> exact hwaits _ rfl
  next => split <;> exact hwaits _ rfl

/-- A call takes the lock. -/
theorem of_onLock (orderly : calling.Orderly) (hcall : calling.call? id = some call)
    (hphase : call.phase = .queued) :
    Balances calling (.advance id) [] (calling.onLock call) := by
  obtain rfl := call?_id hcall
  have hgoes : ∀ {phase : CallPhase} {next : Calling},
      next.calls = (calling.setPhase call.id phase).calls → phase.sequences = 0 →
      phase ≠ .launching → Balances calling (.advance call.id) [] next := by
    intro phase next hnext hnone hwaits
    exact of_phases orderly hcall hphase (by simp) hwaits hnext hnone rfl rfl
  unfold onLock
  dsimp only
  split
  next => split <;> exact hgoes rfl rfl (by simp)
  next =>
    split
    next => exact hgoes rfl rfl (by simp)
    next => split <;> exact hgoes rfl rfl (by simp)
  next => exact hgoes rfl rfl (by simp)

/-- A cooldown is over. -/
theorem of_onCooled (orderly : calling.Orderly) (hcall : calling.call? id = some call)
    {due : Nanos} (hphase : call.phase = .cooling due)
    (hstep : calling.onCooled call = (next, commands)) :
    Balances calling (.advance id) commands next := by
  obtain rfl := call?_id hcall
  have hcooling : CallPhase.cooling due ≠ .launching := by simp
  unfold onCooled at hstep
  dsimp only at hstep
  split at hstep
  next =>
    split at hstep
    next =>
      obtain ⟨rfl, rfl⟩ := Prod.mk.inj hstep
      exact of_phases orderly hcall hphase hcooling (by simp) rfl rfl rfl rfl
    next =>
      obtain ⟨rfl, rfl⟩ := Prod.mk.inj hstep
      exact of_phases orderly hcall hphase hcooling (by simp) rfl rfl rfl rfl
  next slot hoperation =>
    split at hstep
    next =>
      obtain ⟨rfl, rfl⟩ := Prod.mk.inj hstep
      exact of_phases orderly hcall hphase hcooling (by simp) rfl rfl rfl rfl
    next =>
      obtain ⟨rfl, rfl⟩ := Prod.mk.inj hstep
      have hlaunching : Call.launching { call with phase := .launching } = {slot} := by
        rw [Call.launching, hoperation]
        rfl
      refine of_setPhase orderly hcall rfl ?_ ?_
      · rw [hphase]
        rfl
      · rw [hlaunching, Call.launching_of_ne (hphase ▸ hcooling)]
        rfl
  next =>
    obtain ⟨rfl, rfl⟩ := Prod.mk.inj hstep
    exact of_calls_eq rfl rfl rfl rfl rfl

/-- A step that a call takes by itself. -/
theorem of_advance (orderly : calling.Orderly)
    (hstep : calling.advance? id = some (next, commands)) :
    Balances calling (.advance id) commands next := by
  unfold advance? at hstep
  simp only [Option.bind_eq_bind, Option.bind_eq_some_iff] at hstep
  obtain ⟨call, hcall, hstep⟩ := hstep
  obtain rfl := call?_id hcall
  split at hstep
  next hphase =>
    obtain ⟨rfl, rfl⟩ := Prod.mk.inj (Option.some.inj (Option.ite_none_right_eq_some.mp hstep).2)
    exact of_phases orderly hcall hphase (by simp) (by simp) rfl rfl rfl rfl
  next hphase =>
    obtain ⟨rfl, rfl⟩ := Prod.mk.inj (Option.some.inj (Option.ite_none_right_eq_some.mp hstep).2)
    exact of_onLock orderly hcall hphase
  next hphase =>
    exact of_onCooled orderly hcall hphase
      (Option.some.inj (Option.ite_none_right_eq_some.mp hstep).2)
  next slot left alive hphase =>
    split at hstep
    next =>
      obtain ⟨rfl, rfl⟩ := Prod.mk.inj (Option.some.inj hstep)
      exact of_phases orderly hcall hphase (by simp) (by simp) rfl rfl rfl rfl
    next =>
      obtain ⟨rfl, rfl⟩ := Prod.mk.inj (Option.some.inj hstep)
      refine of_phases orderly hcall hphase (by simp) (by simp) rfl ?_ rfl rfl
      simp [CallPhase.sequences, Event.completions, Event.abandonments, Event.handouts]
  next hphase =>
    obtain ⟨rfl, rfl⟩ := Prod.mk.inj (Option.some.inj hstep)
    exact of_phases orderly hcall hphase (by simp) (by simp) rfl rfl rfl rfl
  next => simp at hstep

/-- The engine answers whoever waits for it. -/
theorem of_launched (orderly : calling.Orderly) {outcome : Except Error MemberConfig}
    (hstep : calling.launched? id outcome = some (next, commands)) :
    Balances calling (.launched id outcome) commands next := by
  unfold launched? at hstep
  simp only [Option.bind_eq_bind, Option.bind_eq_some_iff] at hstep
  obtain ⟨call, hcall, hstep⟩ := hstep
  split at hstep
  next hphase =>
    have hanswered : calling.answered (.launched id outcome) = call.launching := by
      simp [answered, hcall, Call.launching, hphase]
    -- The slot is answered in either case; only a process that is handed out is a start.
    have hgoes : ∀ {phase : CallPhase}, next.calls = (calling.setPhase id phase).calls →
        phase ≠ .launching → phase.sequences = handedOut outcome → hardStops commands = 0 →
        launchSlots commands = 0 → Balances calling (.launched id outcome) commands next := by
      intro phase hnext hgone hopen hstops hlaunches
      refine of_setPhase orderly hcall hnext ?_ ?_
      · rw [hphase, hopen, hstops]
        exact (zero_add _).symm
      · rw [hanswered, Call.launching_of_ne hgone, hlaunches, zero_add, add_zero]
    cases outcome with
    | error | ok =>
        obtain ⟨rfl, rfl⟩ := Prod.mk.inj (Option.some.inj hstep)
        exact hgoes rfl (by simp) rfl rfl rfl
  next => simp at hstep

/-- A process is ready, or never will be. -/
theorem of_ready (orderly : calling.Orderly) {outcome : Except Error Unit}
    (hstep : calling.ready? id outcome = some (next, commands)) :
    Balances calling (.ready id outcome) commands next := by
  unfold ready? at hstep
  simp only [Option.bind_eq_bind, Option.bind_eq_some_iff] at hstep
  obtain ⟨call, hcall, hstep⟩ := hstep
  split at hstep
  next hphase =>
    cases outcome with
    | error | ok =>
        obtain ⟨rfl, rfl⟩ := Prod.mk.inj (Option.some.inj hstep)
        exact of_phases orderly hcall hphase (by simp) (by simp) rfl rfl rfl rfl
  next => simp at hstep

/-- A restart gives its process up: a teardown takes the place of the start. -/
theorem of_abandoned (orderly : calling.Orderly)
    (hstep : calling.abandoned? id = some (next, commands)) :
    Balances calling (.abandoned id) commands next := by
  unfold abandoned? at hstep
  simp only [Option.bind_eq_bind, Option.bind_eq_some_iff] at hstep
  obtain ⟨call, hcall, hstep⟩ := hstep
  split at hstep
  next hphase =>
    obtain ⟨rfl, rfl⟩ := Prod.mk.inj (Option.some.inj (Option.ite_none_right_eq_some.mp hstep).2)
    exact of_phases orderly hcall hphase (by simp) (by simp) rfl rfl rfl rfl
  next => simp at hstep

/-- A process has ended. -/
theorem of_ended (orderly : calling.Orderly) {handle : Handle}
    (hstep : calling.ended? id handle = some next) :
    Balances calling (.ended id handle) [] next := by
  unfold ended? at hstep
  simp only [Option.bind_eq_bind, Option.bind_eq_some_iff] at hstep
  obtain ⟨call, hcall, hstep⟩ := hstep
  split at hstep
  next hphase =>
    obtain rfl := Option.some.inj (Option.ite_none_right_eq_some.mp hstep).2
    exact of_phases orderly hcall hphase (by simp) (by simp) rfl rfl rfl rfl
  next left alive hphase =>
    obtain ⟨halive, hnext⟩ := Option.ite_none_right_eq_some.mp hstep
    obtain rfl := Option.some.inj hnext
    refine of_phases orderly hcall hphase (by simp) (by simp) rfl ?_ rfl rfl
    have hlength := List.length_erase_add_one halive
    simpa [CallPhase.sequences, Event.completions, Event.abandonments, Event.handouts] using hlength
  next => simp at hstep

end Balances

end Calling

namespace System

variable {system next : System} {event : Event} {commands : List Command}

/-- How many sequences the calls have open. -/
def sequences (system : System) : Nat := system.calling.total (·.phase.sequences)

/-- The slots for which calls wait for the engine. -/
def launching (system : System) : Multiset Nat := system.calling.total Call.launching

/-- Whatever a running fleet does, its books of sequences are balanced. -/
theorem balances_of_step? (orderly : system.Orderly)
    (hstep : system.step? event = some (next, commands)) :
    system.calling.Balances event commands next.calling := by
  cases event with
  | outside outer =>
      simp only [step?, Option.map_eq_some_iff, Prod.mk.injEq] at hstep
      obtain ⟨fleet, -, rfl, rfl⟩ := hstep
      exact .of_calls_eq rfl rfl rfl rfl rfl
  | call operation =>
      obtain ⟨rfl, rfl⟩ := Prod.mk.inj (Option.some.inj hstep)
      exact .of_make ..
  | advance id =>
      obtain ⟨calling, hcalling, rfl⟩ := exists_of_onCalling hstep
      exact .of_advance orderly hcalling
  | launched id outcome =>
      obtain ⟨calling, hcalling, rfl⟩ := exists_of_onCalling hstep
      exact .of_launched orderly hcalling
  | ready id outcome =>
      obtain ⟨calling, hcalling, rfl⟩ := exists_of_onCalling hstep
      exact .of_ready orderly hcalling
  | abandoned id =>
      obtain ⟨calling, hcalling, rfl⟩ := exists_of_onCalling hstep
      exact .of_abandoned orderly hcalling
  | ended id handle =>
      simp only [step?, Option.map_eq_some_iff, Prod.mk.injEq] at hstep
      obtain ⟨calling, hcalling, rfl, rfl⟩ := hstep
      exact .of_ended orderly hcalling
  | tick | survey | join | quit | answered | drop =>
      obtain ⟨watching, -, rfl, rfl⟩ := exists_of_onWatching hstep
      exact .of_calls_eq rfl rfl rfl rfl rfl
  | probe slot =>
      obtain ⟨watching, hwatching, rfl⟩ := exists_of_advance? hstep
      rcases (Watching.move_of_advance hwatching).commands_eq with rfl | ⟨other, config, rfl⟩
      · exact .of_calls_eq rfl rfl rfl rfl rfl
      · exact .of_calls_eq rfl rfl rfl rfl rfl

theorem sequences_of_mem {call : Call} (hmem : call ∈ system.calls) :
    call.phase.sequences ≤ system.sequences :=
  List.le_sum_of_mem (List.mem_map.mpr ⟨call, hmem, rfl⟩)

/-- While no call is under way nothing is open. -/
theorem sequences_of_idle (orderly : system.Orderly) (hidle : system.underway? = none) :
    system.sequences = 0 ∧ system.launching = 0 := by
  have hnone : system.calling.underway? = none := hidle
  constructor
  · rw [sequences, orderly.total_eq fun _ => CallPhase.sequences_of_waits, hnone]
    rfl
  · rw [launching, orderly.total_eq fun _ => Call.launching_of_waits, hnone]
    rfl

/-- Whoever waits for the engine is one of the calls. -/
theorem exists_of_launching {slot : Nat} (hslot : slot ∈ system.launching) :
    ∃ call ∈ system.calls, call.phase = .launching ∧ Calling.slotOf call.operation = slot := by
  rw [launching, Calling.total, ← Multiset.sum_coe] at hslot
  obtain ⟨slots, hslots, hmem⟩ := Multiset.mem_join.mp hslot
  obtain ⟨call, hcall, rfl⟩ := List.mem_map.mp (Multiset.mem_coe.mp hslots)
  refine ⟨call, hcall, ?_⟩
  unfold Call.launching at hmem
  split at hmem
  next hphase => exact ⟨hphase, (Multiset.mem_singleton.mp hmem).symm⟩
  next => simp at hmem

/-- It takes the engine's answer. -/
theorem takes_launched {id : Nat} {call : Call} (hcall : system.calling.call? id = some call)
    (hphase : call.phase = .launching) (outcome : Except Error MemberConfig) :
    (system.step? (.launched id outcome)).isSome := by
  cases outcome with
  | error error => simp [step?, Calling.launched?, hcall, hphase]
  | ok config => simp [step?, Calling.launched?, hcall, hphase]

/-- Until a shutdown is called at most one sequence is open, or about to begin. -/
theorem sequences_le_one {notes : List EngineNote} (sound : system.Sound notes)
    (hopen : system.fleet.shutDown = false) :
    system.sequences + system.launching.card ≤ 1 := by
  rw [sequences, launching, sound.orderly.total_eq fun _ => CallPhase.sequences_of_waits,
    sound.orderly.total_eq fun _ => Call.launching_of_waits]
  cases hunderway : system.calling.underway? with
  | none => simp
  | some call =>
      have hfits := sound.orderly.fitting call (Calling.underway?_mem hunderway)
      have hshut : call.operation = .shutdown → system.fleet.shutDown = true :=
        sound.shutting.shut_of_underway hunderway
      obtain ⟨id, operation, phase⟩ := call
      cases phase with
      | emptying left alive =>
          cases operation with
          | shutdown => simp [hshut rfl] at hopen
          | stop | restart => exact hfits.elim
      | draining | queued | cooling | launching | awaiting | ending | finished =>
          simp [CallPhase.sequences, Call.launching]

end System

/-- How many sequences an event of a start completes. -/
def StartEvent.completions : StartEvent → Nat
  | .ready .. => 1
  | .ended _ => 1
  | _ => 0

/-- How many starts of processes begin with an event of a start. -/
def StartEvent.handouts : StartEvent → Nat
  | .launched outcome => handedOut outcome
  | _ => 0

namespace StartPhase

/-- How many sequences are open in a phase of a start that has launched these processes. -/
def sequences (handles : List Handle) : StartPhase → Nat
  | .launching _ => handles.length
  | .awaiting outcomes => outcomes.countP Option.isNone
  | .undoing _ alive => alive.length
  | .settling _ => 0
  | .searching _ => 0
  | .failed _ => 0
  | .unwound _ => 0
  | .started => 0

/-- The slot for which a start waits for the engine in a phase. -/
def launchSlot (handles : List Handle) : StartPhase → Multiset Nat
  | .launching (_ :: _) => {handles.length}
  | _ => 0

/-- No process is awaited, and none is launched. -/
def isUp : StartPhase → Bool
  | .settling _ => true
  | .searching _ => true
  | .started => true
  | .launching _ => false
  | .awaiting _ => false
  | .undoing .. => false
  | .failed _ => false
  | .unwound _ => false

theorem sequences_of_isUp {phase : StartPhase} (hup : phase.isUp = true) (handles : List Handle) :
    phase.sequences handles = 0 ∧ phase.launchSlot handles = 0 := by
  cases phase with
  | settling | searching | started => exact ⟨rfl, rfl⟩
  | launching | awaiting | undoing | failed | unwound => simp [isUp] at hup

end StartPhase

namespace Bootstrap

variable {start next : Bootstrap} {event : StartEvent} {commands : List Command}

/-- How many sequences a start has open. -/
def sequences (start : Bootstrap) : Nat := start.phase.sequences start.handles

/-- The slot for which a start waits for the engine. -/
def launching (start : Bootstrap) : Multiset Nat := start.phase.launchSlot start.handles

/-- The slot whose launch is answered with an event. -/
def answered (start : Bootstrap) : StartEvent → Multiset Nat
  | .launched _ => start.launching
  | _ => 0

/-- What a step of a start begins and completes, while nothing is torn down. -/
structure Balances (start : Bootstrap) (event : StartEvent) (commands : List Command)
    (next : Bootstrap) : Prop where
  sequences : next.sequences + event.completions = start.sequences + event.handouts
  launching : next.launching + start.answered event = start.launching + launchSlots commands
  hardStops : hardStops commands = 0

namespace Balances

/-- Between the waits for processes nothing begins and nothing is complete. -/
theorem of_isUp (hbefore : start.phase.isUp = true) (hafter : next.phase.isUp = true)
    (hevent : event.completions = event.handouts) (hanswered : start.answered event = 0)
    (hcommands : commands = [] ∨ ∃ slot config, commands = [.query slot config]) :
    Balances start event commands next := by
  have hwas := StartPhase.sequences_of_isUp hbefore start.handles
  have his := StartPhase.sequences_of_isUp hafter next.handles
  refine ⟨?_, ?_, ?_⟩
  · rw [Bootstrap.sequences, Bootstrap.sequences, hwas.1, his.1, hevent]
  · rw [Bootstrap.launching, Bootstrap.launching, hwas.2, his.2, hanswered]
    rcases hcommands with rfl | ⟨slot, config, rfl⟩ <;> rfl
  · rcases hcommands with rfl | ⟨slot, config, rfl⟩ <;> rfl

/-- While processes are awaited none is launched. -/
theorem of_awaiting {outcomes : List (Option (Except Error Unit))}
    (hphase : start.phase = .awaiting outcomes)
    (hlaunching : next.phase.launchSlot next.handles = 0) (hanswered : start.answered event = 0)
    (hsequences : next.sequences + event.completions =
      outcomes.countP Option.isNone + event.handouts) : Balances start event [] next := by
  refine ⟨?_, ?_, rfl⟩
  · rw [hsequences, Bootstrap.sequences, hphase]
    rfl
  · rw [Bootstrap.launching, Bootstrap.launching, hlaunching, hanswered, hphase]
    rfl

end Balances

theorem countP_set_outcome {outcomes : List (Option (Except Error Unit))} {slot : Nat}
    (hslot : outcomes[slot]? = some none) (outcome : Except Error Unit) :
    (outcomes.set slot (some outcome)).countP Option.isNone + 1 =
      outcomes.countP Option.isNone := by
  obtain ⟨hlt, hnone⟩ := List.getElem?_eq_some_iff.mp hslot
  have hpos : 0 < outcomes.countP Option.isNone :=
    List.countP_pos_iff.mpr ⟨none, List.mem_of_getElem? hslot, rfl⟩
  rw [List.countP_set hlt, hnone]
  exact Nat.sub_add_cancel hpos

theorem countP_of_known {outcomes : List (Option (Except Error Unit))}
    (hall : ∀ outcome ∈ outcomes, outcome = some (.ok ())) :
    outcomes.countP Option.isNone = 0 := by
  apply List.countP_eq_zero.mpr
  intro outcome hmem
  simp [hall outcome hmem]

/-- A start that waits for the engine takes its answer. -/
theorem takes_launched {slot : Nat} (hslot : slot ∈ start.launching)
    (outcome : Except Error MemberConfig) :
    start.launching = {slot} ∧ (start.step? (.launched outcome)).isSome := by
  cases hphase : start.phase with
  | launching todo =>
      cases todo with
      | nil => simp [launching, StartPhase.launchSlot, hphase] at hslot
      | cons config todo =>
          simp only [launching, StartPhase.launchSlot, hphase, Multiset.mem_singleton] at hslot ⊢
          refine ⟨by rw [hslot], ?_⟩
          cases outcome <;> simp [step?, onLaunched, hphase]
  | awaiting | settling | searching | undoing | failed | unwound | started =>
      simp [launching, StartPhase.launchSlot, hphase] at hslot

/-- Whoever becomes ready during a start was awaited. -/
theorem sequences_of_ready {slot : Nat} {outcome : Except Error Unit}
    (htakes : (start.step? (.ready slot outcome)).isSome) : 0 < start.sequences := by
  rw [step?, onReady] at htakes
  split at htakes
  next outcomes hphase =>
    split at htakes
    next hslot =>
      rw [sequences, hphase]
      exact List.countP_pos_iff.mpr ⟨none, List.mem_of_getElem? hslot, rfl⟩
    next => simp at htakes
  next => simp at htakes

/-- Whoever ends during a start was torn down. -/
theorem sequences_of_ended {handle : Handle} (htakes : (start.step? (.ended handle)).isSome) :
    0 < start.sequences := by
  rw [step?, onEnded] at htakes
  split at htakes
  next error alive hphase =>
    split at htakes
    next halive =>
      rw [sequences, hphase]
      exact List.length_pos_of_mem halive
    next => simp at htakes
  next => simp at htakes

/-- While a start is not on its way down, its books are balanced. -/
theorem Stride.balances (stride : Stride start event commands next)
    (hup : next.phase.isDown = false) :
    start.phase.isDown = false ∧ start.Balances event commands next := by
  cases stride with
  | outside => exact ⟨hup, rfl, rfl, rfl⟩
  | fall hdown => simp [hdown] at hup
  | unwind => simp [StartPhase.isDown] at hup
  | launch hphase =>
      refine ⟨by rw [hphase]; rfl, ?_, ?_, rfl⟩
      · simp [Bootstrap.sequences, StartPhase.sequences, hphase, enlist, StartEvent.completions,
          StartEvent.handouts, handedOut]
      · rw [answered, add_comm, Bootstrap.launching, Bootstrap.launching, hphase]
        rfl
  | muster hphase =>
      refine ⟨by rw [hphase]; rfl, ?_, ?_, hardStops_eq_zero (by simp)⟩
      · simp [Bootstrap.sequences, StartPhase.sequences, hphase, enlist, StartEvent.completions,
          StartEvent.handouts, handedOut, List.countP_replicate]
      · rw [answered, launchSlots_eq_zero (by simp), add_comm, Bootstrap.launching,
          Bootstrap.launching, hphase]
        rfl
  | know hphase hslot =>
      exact ⟨by rw [hphase]; rfl, .of_awaiting hphase rfl rfl (countP_set_outcome hslot _)⟩
  | rally hphase hslot hall =>
      -- The outcomes are not recorded any more, so the last one is counted as if it were.
      refine ⟨by rw [hphase]; rfl, .of_awaiting hphase rfl rfl ?_⟩
      rw [← countP_set_outcome hslot (.ok ()), countP_of_known hall]
      rfl
  | release hphase hall =>
      refine ⟨by rw [hphase]; rfl, .of_awaiting hphase rfl rfl ?_⟩
      rw [countP_of_known hall]
      rfl
  | ask hphase _ _ _ hcommands =>
      refine ⟨by rw [hphase]; rfl, .of_isUp (by rw [hphase]; rfl) rfl rfl rfl ?_⟩
      exact hcommands.imp_right fun ⟨config, hquery⟩ => ⟨_, config, hquery⟩
  | seek hphase | hear hphase | complete hphase | rest hphase =>
      exact ⟨by rw [hphase]; rfl, .of_isUp (by rw [hphase]; rfl) rfl rfl rfl (.inl rfl)⟩

/-- A start begins with nothing open, and waits for the engine if it launches anything. -/
theorem sequences_of_begin {settings : FleetSettings} {token : String} {files after : Files}
    {clock : Clock} {rootFired : Bool}
    (hbegin : Bootstrap.begin settings token files clock rootFired =
      (after, .ok (start, commands))) :
    start.sequences = 0 ∧ start.launching = launchSlots commands ∧ hardStops commands = 0 := by
  unfold Bootstrap.begin at hbegin
  split at hbegin
  next => simp at hbegin
  next =>
    split at hbegin
    next => simp at hbegin
    next configs _ =>
      split at hbegin
      next => simp at hbegin
      next =>
        obtain ⟨-, hnext⟩ := Prod.mk.inj hbegin
        obtain ⟨rfl, rfl⟩ := Prod.ext_iff.mp (Except.ok.inj hnext)
        cases configs with
        | nil => exact ⟨rfl, rfl, rfl⟩
        | cons config todo => exact ⟨rfl, rfl, rfl⟩

end Bootstrap

end FleetControl
