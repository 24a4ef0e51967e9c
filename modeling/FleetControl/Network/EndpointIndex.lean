import FleetControl.Address
import FleetControl.Keyed

/-!
# Endpoint index

Finds the slot that serves an endpoint. Endpoints are told apart by their host parts alone, so a
lookup takes an endpoint with or without a scheme.
-/

namespace FleetControl

/-- The slot of each known host part. -/
structure EndpointIndex where
  hosts : Keyed String Nat := []
deriving DecidableEq, Repr, Inhabited

namespace EndpointIndex

/-- Files an endpoint under a slot. A later slot replaces an earlier one of the same host part. -/
def insert (index : EndpointIndex) (endpoint : String) (slot : Nat) : EndpointIndex :=
  { hosts := index.hosts.set (Address.hostOf endpoint) slot }

/-- The slot that serves an endpoint. -/
def find? (index : EndpointIndex) (endpoint : String) : Option Nat :=
  index.hosts.find? (Address.hostOf endpoint)

/-- The number of host parts known. -/
def size (index : EndpointIndex) : Nat := index.hosts.length

end EndpointIndex

end FleetControl
