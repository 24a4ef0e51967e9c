import FleetControl.Proofs.Fleet.Change
import FleetControl.Proofs.Fleet.Step

/-!
# A shutdown can be carried to its end

Nothing in a shutdown stands in its own way. The monitor is over once it sees its stop signal, the
lock comes to a call that is alone in the line, and a shutdown that holds it takes the processes out
of their slots one after the other until nothing is left but to remove the directory.
-/

namespace FleetControl

/-- The fleet once a shutdown was called. -/
def Fleet.told (fleet : Fleet) : Fleet :=
  { fleet with shutDown := true, rootFired := true, stopFired := true }

/-- The fleet once its directory was removed, as far as it can be. -/
def Fleet.cleared (fleet : Fleet) : Fleet :=
  { fleet with files := (fleet.files.removeDirectory fleet.rootDir).1 }

namespace System

/-- The system with a shutdown in this phase behind its other calls. -/
def closing (system : System) (fleet : Fleet) (line : List Nat) (phase : CallPhase) : System :=
  { system with
    fleet
    calls := system.calls ++ [⟨system.made, .shutdown, phase⟩]
    line
    made := system.made + 1 }

/-- The system once its monitor has seen the stop signal. -/
def unwatched (system : System) : System :=
  { system with
    monitor := { system.monitor with phase := .over }
    probes := (system.probes.filter (·.phase ≠ .begun)).map ({ · with abandoned := true }) }

variable {system : System} {fleet : Fleet} {line : List Nat} {phase : CallPhase}

theorem step?_call_shutdown (hopen : system.fleet.shutDown = false) :
    system.step? (.call .shutdown) =
      some (system.closing system.fleet.told system.line .draining, []) := by
  have hopen : system.calling.fleet.shutDown = false := hopen
  simp only [step?, Calling.make, hopen, Bool.false_eq_true, if_false]
  rfl

/-- The monitor sees the stop signal while it waits for a tick. -/
theorem step?_quit_closing (hidle : system.monitor.phase = .idle)
    (hstop : fleet.stopFired = true) (line : List Nat) (phase : CallPhase) :
    (system.closing fleet line phase).step? .quit =
      some (system.unwatched.closing { fleet with doneFired := true } line phase, []) := by
  have hidle : (system.closing fleet line phase).watching.monitor.phase = .idle := hidle
  have hstop : (system.closing fleet line phase).watching.fleet.stopFired = true := hstop
  simp only [step?, Watching.quit?, if_pos hstop, hidle]
  rfl

/-- The number of the next call is a new one. -/
theorem Orderly.id_ne_made (orderly : system.Orderly) :
    ∀ call ∈ system.calls, call.id ≠ system.made := by
  intro call hmem hid
  have hnumbered : system.calls.map (·.id) = List.range system.made := orderly.numbered
  have hnumber : call.id ∈ List.range system.made := hnumbered ▸ List.mem_map_of_mem hmem
  exact absurd (List.mem_range.mp hnumber) (by omega)

section Shutdown

variable (hnew : ∀ call ∈ system.calls, call.id ≠ system.made)

include hnew

theorem call?_closing : (system.closing fleet line phase).calling.call? system.made =
    some ⟨system.made, .shutdown, phase⟩ := by
  have hnone : system.calls.find? (·.id = system.made) = none := by simpa using hnew
  simp [Calling.call?, calling, closing, hnone]

theorem setPhase_closing (fleet : Fleet) (line : List Nat) (phase next : CallPhase) :
    (system.closing fleet line phase).calling.setPhase system.made next =
      (system.closing fleet line next).calling := by
  have hsame : system.calls.map (fun call =>
      if call.id = system.made then { call with phase := next } else call) = system.calls :=
    (List.map_congr_left fun call hmem => if_neg (hnew call hmem)).trans (List.map_id _)
  simp [Calling.setPhase, calling, closing, hsame]

/-- Once the monitor is over, the shutdown takes its place in the line. -/
theorem step?_closing_drained (hdone : fleet.doneFired = true) (line : List Nat) :
    (system.closing fleet line .draining).step? (.advance system.made) =
      some (system.closing fleet (line ++ [system.made]) .queued, []) := by
  have hdone : (system.closing fleet line .draining).calling.fleet.doneFired = true := hdone
  simp only [step?, Calling.advance?, call?_closing hnew, Option.bind_eq_bind, Option.bind_some,
    if_pos hdone, setPhase_closing hnew, Option.map_some]
  rfl

theorem step?_closing_lock (fleet : Fleet) :
    (system.closing fleet [system.made] .queued).step? (.advance system.made) =
      some (system.closing fleet [system.made] (.emptying (List.range fleet.slots.length) []),
        []) := by
  have hholds : (system.closing fleet [system.made] .queued).calling.holds system.made = true := by
    simp [Calling.holds, calling, closing]
  simp only [step?, Calling.advance?, call?_closing hnew, Option.bind_eq_bind, Option.bind_some,
    if_pos hholds, Calling.onLock, setPhase_closing hnew, Option.map_some]
  rfl

/-- A process is taken out of its slot and torn down. -/
theorem step?_closing_clear {slot : Nat} {handle : Handle}
    (hprocess : fleet.process? slot = some handle) (line left : List Nat) (alive : List Handle) :
    (system.closing fleet line (.emptying (slot :: left) alive)).step? (.advance system.made) =
      some (system.closing (fleet.release slot .shutdown) line
        (.emptying left (alive ++ [handle])), teardown slot handle) := by
  have hprocess : (system.closing fleet line
      (.emptying (slot :: left) alive)).calling.fleet.process? slot = some handle := hprocess
  have hset := setPhase_closing hnew (fleet.release slot .shutdown) line
    (.emptying (slot :: left) alive) (.emptying left (alive ++ [handle]))
  have hadvance : (system.closing fleet line (.emptying (slot :: left) alive)).calling.advance?
      system.made = some ((system.closing (fleet.release slot .shutdown) line
        (.emptying left (alive ++ [handle]))).calling, teardown slot handle) := by
    simp only [Calling.advance?, call?_closing hnew, Option.bind_eq_bind, Option.bind_some,
      hprocess]
    rw [← hset]
    rfl
  exact step?_of_advance hadvance

theorem step?_closing_ended {left : List Nat} {alive : List Handle} {handle : Handle}
    (hmem : handle ∈ alive) :
    (system.closing fleet line (.emptying left alive)).step? (.ended system.made handle) =
      some (system.closing fleet line (.emptying left (alive.erase handle)), []) := by
  simp only [step?, Calling.ended?, call?_closing hnew, Option.bind_eq_bind, Option.bind_some,
    hmem, setPhase_closing hnew, if_true, Option.map_some]
  rfl

theorem finish_closing (fleet : Fleet) (phase : CallPhase) (result : Except Error Unit) :
    (system.closing fleet [system.made] phase).calling.finish system.made result =
      (system.closing fleet [] (.finished result)).calling := by
  rw [Calling.finish, setPhase_closing hnew]
  simp [calling, closing]

/-- The directory is removed, and the shutdown returns. -/
theorem step?_closing_finish :
    (system.closing fleet [system.made] (.emptying [] [])).step? (.advance system.made) =
      some (system.closing fleet.cleared []
        (.finished (fleet.files.removeDirectory fleet.rootDir).2), []) := by
  have hadvance : (system.closing fleet [system.made] (.emptying [] [])).calling.advance?
      system.made = some ((system.closing fleet.cleared []
        (.finished (fleet.files.removeDirectory fleet.rootDir).2)).calling, []) := by
    simp only [Calling.advance?, call?_closing hnew, Option.bind_eq_bind, Option.bind_some]
    rw [← finish_closing hnew fleet.cleared (.emptying [] [])]
    rfl
  exact step?_of_advance hadvance

end Shutdown

end System

end FleetControl
