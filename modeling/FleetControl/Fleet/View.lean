import FleetControl.Fleet.State
import FleetControl.Number.Decimal
import FleetControl.Text.Quoted

/-!
# What a fleet shows

The questions that the owner of a fleet may ask it at any time. None of them waits for anything.
-/

namespace FleetControl.Fleet

open FleetControl.Number FleetControl.Text

/-- How many members the fleet has. -/
def size (fleet : Fleet) : Nat := fleet.members.length

/-- The snapshot of a member. -/
def status? (fleet : Fleet) (slot : Nat) : Option MemberStatus :=
  (fleet.member? slot).map (·.status)

/-- The snapshots of all members. -/
def statuses (fleet : Fleet) : List MemberStatus := fleet.members.map (·.status)

/-- Whether a member's snapshot shows it stopped. -/
def isStopped? (fleet : Fleet) (slot : Nat) : Option Bool :=
  (fleet.status? slot).map (·.isStopped)

/-- The configuration that is in force for a member. -/
def config? (fleet : Fleet) (slot : Nat) : Option MemberConfig :=
  (fleet.member? slot).map (·.config)

/-- The configurations that are in force. -/
def configs (fleet : Fleet) : List MemberConfig := fleet.members.map (·.config)

/-- Where a member serves its clients, with or without the scheme. -/
def endpoints? (fleet : Fleet) (slot : Nat) (withScheme : Bool) : Option (List String) :=
  (fleet.config? slot).map (·.clientEndpoints withScheme)

/-- Where the members serve their clients. -/
def allEndpoints (fleet : Fleet) (withScheme : Bool) : List String :=
  fleet.configs.flatMap (·.clientEndpoints withScheme)

/-- The member that serves clients at an endpoint. -/
def findByEndpoint? (fleet : Fleet) (endpoint : String) : Option Nat :=
  fleet.endpoints.find? endpoint

/-- The parts of a fleet by name, up to the time of its start. -/
def describe (fleet : Fleet) : String :=
  "Cluster \x7b size: " ++ decimal fleet.size ++ ", root_dir: " ++ quoted fleet.rootDir

/-- The owner lets go of the fleet, which stops the monitor. -/
def dropped (fleet : Fleet) : Fleet := { fleet with stopFired := true }

end FleetControl.Fleet
