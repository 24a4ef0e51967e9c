import FleetControl.Files.Path
import FleetControl.Member.Config
import FleetControl.Settings.Basic

/-!
# The layout of a fleet

The configurations with which the members of a fleet are first launched. Members are numbered from
zero; a member's name, directories and ports follow from its number, and every member is told the
names and peer URLs of all of them.
-/

namespace FleetControl.Layout

open FleetControl.Number

/-- The name of a member. -/
def memberName (slot : Nat) : String := "member-" ++ decimal slot

/-- The data directory of a member. -/
def dataDir (rootDir : String) (slot : Nat) : String :=
  Path.join rootDir (memberName slot ++ ".etcd")

/-- What every member of the fleet has in common. -/
structure Common where
  fleet : FleetSection
  clientTls : TlsMode
  peerTls : TlsMode
  token : String
deriving Repr

/-- What settings say about all members, or the failure that a channel's security is ambiguous. -/
def Common.ofSettings (settings : FleetSettings) (token : String) : Except Stop Common := do
  let clientTls ← settings.tls.clientMode.mapError .error
  let peerTls ← settings.tls.peerMode.mapError .error
  return { fleet := settings.fleet, clientTls, peerTls, token }

/-- A member's configuration but for the list of all members. The peer port follows the client
port. -/
def Common.member (common : Common) (slot : Nat) : Except Overflow MemberConfig := do
  let clientPort ← common.fleet.clientPort slot
  let peerPort ← addWithin 16 clientPort 1
  let dataDir := dataDir common.fleet.rootDir slot
  return {
    name := memberName slot
    dataDir
    walDir := Path.join dataDir "wal"
    clientUrls := [Address.url common.clientTls.scheme common.fleet.host clientPort]
    peerUrls := [Address.url common.peerTls.scheme common.fleet.host peerPort]
    initialCluster := ""
    initialClusterToken := common.token
    initialClusterState := .new
    clientTls := common.clientTls
    peerTls := common.peerTls }

/-- The list of all members, as names and peer URLs. -/
def initialCluster (configs : List MemberConfig) : String :=
  ",".intercalate (configs.map fun config => config.name ++ "=" ++ config.peerUrl)

/-- Splits a text at a character. -/
def pieces (mark : Char) (text : List Char) : List (List Char) := text.splitOn mark

/-- Reads the names and peer URLs back from a list of all members: the pieces between commas, each
taken apart at its first equals sign. -/
def readInitialCluster (cluster : String) : List (String × String) :=
  (pieces ',' cluster.toList).map fun piece =>
    (String.ofList (piece.takeWhile (· ≠ '=')), String.ofList ((piece.dropWhile (· ≠ '=')).drop 1))

/-- The configurations of all members, in order. -/
def memberConfigs (settings : FleetSettings) (token : String) : Except Stop (List MemberConfig) := do
  let common ← Common.ofSettings settings token
  let configs ← ((List.range settings.fleet.size.toNat).mapM common.member).mapError Stop.ofOverflow
  let cluster := initialCluster configs
  return configs.map fun config => { config with initialCluster := cluster }

/-- What a token that tells clusters apart begins with. -/
def tokenLead : String := "d-engine-fleet-"

/-- The token of a cluster, from the random characters drawn for it. -/
def clusterToken (drawn : String) : String := tokenLead ++ drawn

end FleetControl.Layout
