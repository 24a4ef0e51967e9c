import FleetControl.Fleet.State

/-!
# Simulated surroundings

What a fleet meets when it is rehearsed in virtual time: an engine that launches processes and
members that answer questions, as functions on a state of their own. Every wait has a length that is
fixed when it begins.
-/

namespace FleetControl.Simulation

/-- Surroundings with a state. Times are told as instants of the monotonic clock. -/
structure Surroundings (σ : Type) where
  /-- Launches a process for a slot, at once. -/
  launch : σ → Nanos → Files → Nat → MemberConfig → σ × Files × Except Error MemberConfig
  /-- How long a process takes to become ready, if it ever ends to wait, and how that ends. -/
  ready : σ → Nat → Option Nanos × Except Error Unit
  /-- A process has become ready, or has failed to. -/
  readied : σ → Nanos → Nat → Except Error Unit → σ
  hardStop : σ → Nanos → Nat → σ
  close : σ → Nanos → Nat → σ
  /-- How long a process takes to end. -/
  ending : σ → Nat → Nanos
  /-- A process has ended. -/
  ended : σ → Nanos → Nat → σ
  /-- Asks a member, for its status alone or with the hash of its data: how long it takes, and what
  it answers then. -/
  ask : σ → Nat → Bool → σ × Nanos × (σ → σ × Answer ProbeReport)

end FleetControl.Simulation
