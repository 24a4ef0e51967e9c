import FleetControl.Files.Path
import FleetControl.Member.Config
import FleetControl.Settings.Basic

/-!
# Presets

A plain member configuration and fleet settings with quick timings, from which simulations start.
-/

namespace FleetControl.Simulation

/-- The directory of members that are configured one by one. -/
def presetRoot : String := "/tmp/d-engine-fleet-test"

/-- The configuration of an unsecured member that serves clients and peers at the given host. -/
def memberAt (name host : String) : MemberConfig :=
  let dataDir := Path.join presetRoot (name ++ ".etcd")
  { name, dataDir
    walDir := Path.join dataDir "wal"
    clientUrls := ["http://" ++ host]
    peerUrls := ["http://" ++ host]
    initialCluster := ""
    initialClusterToken := "test-token"
    initialClusterState := .new
    clientTls := .none
    peerTls := .none }

/-- Settings of a fleet of the given size with quick timings. -/
def quickSettings (rootDir : String) (size : UInt64) : FleetSettings :=
  { fleet := { size, rootDir, rootPort := 42379 }
    monitor := {
      tickIntervalMs := 100, leaderDiscoveryBackoffMs := 100
      probeTimeoutMs := 500, dialTimeoutMs := 500 } }

end FleetControl.Simulation
