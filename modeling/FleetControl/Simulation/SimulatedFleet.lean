import FleetControl.Keyed
import FleetControl.Simulation.Script

/-!
# A simulated fleet

A fleet without processes: it knows which of its members run, and elects the lowest of them as
leader as long as more than half of it runs. Members can be made unreachable, and their starts and
questions made to fail. The fleet counts how many starts and teardowns are open at once.
-/

namespace FleetControl.Simulation

/-- The state of a simulated fleet. -/
structure SimulatedFleet where
  size : Nat
  /-- How long a member takes to become ready, and to end. -/
  opDelay : Nanos := Nanos.ofMillis 10
  running : List Nat := []
  unreachable : List Nat := []
  unwinding : List Nat := []
  failing : List Nat := []
  hanging : List Nat := []
  /-- How many of the next reports name no leader. -/
  leaderless : Nat := 0
  starts : List (String × InitialClusterState) := []
  teardowns : List String := []
  /-- The configuration with which each member was last started. -/
  configs : Keyed Nat MemberConfig := []
  /-- How many starts and teardowns are open. -/
  inFlight : Int := 0
  /-- The most that were open at once. -/
  maxInFlight : Int := 0

/-- The hash that every member of a simulated fleet reports. -/
def simulatedHash : Nat := 0xfeed

/-- The size of the data that every member of a simulated fleet reports. -/
def simulatedDbSize : Nat := 24576

namespace SimulatedFleet

/-- The leader of the fleet. -/
def leader? (sim : SimulatedFleet) : Option Nat := elected sim.running sim.size

/-- A member runs. -/
def isRunning (sim : SimulatedFleet) (slot : Nat) : Bool := slot ∈ sim.running

/-- Makes a member unreachable, or reachable again. -/
def setUnreachable (sim : SimulatedFleet) (slot : Nat) (unreachable : Bool) : SimulatedFleet :=
  { sim with
    unreachable :=
      if unreachable then sim.unreachable.insert slot else sim.unreachable.erase slot }

/-- Counts the most open starts and teardowns anew. -/
def resetInFlight (sim : SimulatedFleet) : SimulatedFleet := { sim with maxInFlight := sim.inFlight }

/-- A start or a teardown begins. -/
def enter (sim : SimulatedFleet) : SimulatedFleet :=
  let inFlight := sim.inFlight + 1
  { sim with inFlight, maxInFlight := max sim.maxInFlight inFlight }

/-- A start or a teardown is complete. -/
def leave (sim : SimulatedFleet) : SimulatedFleet := { sim with inFlight := sim.inFlight - 1 }

/-- Starts a member. -/
def launch (sim : SimulatedFleet) (slot : Nat) (config : MemberConfig) :
    SimulatedFleet × Except Error MemberConfig :=
  let sim := { sim with starts := sim.starts ++ [(config.name, config.initialClusterState)] }
  if slot ∈ sim.failing then
    (sim, .error (.engineStart config.name (.engine "simulated start failure")))
  else ({ sim with configs := sim.configs.set slot config }.enter, .ok config)

/-- How long a member takes to become ready. -/
def ready (sim : SimulatedFleet) (slot : Nat) : Option Nanos :=
  if slot ∈ sim.hanging then none else some sim.opDelay

/-- A member has become ready. -/
def readied (sim : SimulatedFleet) (slot : Nat) : SimulatedFleet :=
  { sim with running := sim.running.insert slot }.leave

/-- A member is stopped at once. -/
def hardStop (sim : SimulatedFleet) (slot : Nat) : SimulatedFleet :=
  { sim.enter with running := sim.running.erase slot }

/-- A member has ended. -/
def ended (sim : SimulatedFleet) (slot : Nat) : SimulatedFleet :=
  { sim with
    teardowns := sim.teardowns ++ [(sim.configs.find? slot).elim "" (·.name)] }.leave

/-- The answer of a member to a question. -/
def respond (slot : Nat) (sim : SimulatedFleet) : SimulatedFleet × Answer ProbeReport :=
  if slot ∈ sim.unwinding then
    (sim, .unwound ("simulated probe panic on " ++ (sim.configs.find? slot).elim "" (·.name)))
  else if slot ∉ sim.running ∨ slot ∈ sim.unreachable then
    (sim, .reply (.error unreachableFault))
  else
    let answer (leaderId : Nat) : Answer ProbeReport :=
      .reply (.ok {
        status := { memberId := memberIdOf slot, leaderId, dbSize := simulatedDbSize }
        hash := simulatedHash })
    if 0 < sim.leaderless then ({ sim with leaderless := sim.leaderless - 1 }, answer 0)
    else (sim, answer (sim.leader?.elim 0 memberIdOf))

/-- A simulated fleet as surroundings. -/
def surroundings : Surroundings SimulatedFleet where
  launch sim _ files slot config :=
    let (sim, outcome) := sim.launch slot config
    (sim, files, outcome)
  ready sim slot := (sim.ready slot, .ok ())
  readied sim _ slot _ := sim.readied slot
  hardStop sim _ slot := sim.hardStop slot
  close sim _ _ := sim
  ending sim _ := sim.opDelay
  ended sim _ slot := sim.ended slot
  ask sim slot _ := (sim, 0, respond slot)

end SimulatedFleet

end FleetControl.Simulation
