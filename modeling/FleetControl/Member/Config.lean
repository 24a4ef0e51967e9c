import FleetControl.Address
import FleetControl.Tls

/-!
# Member configurations

What the engine is told about one member. The engine hands a configuration back, and that one is
then in force: it may hold security material where the request asked for it to be issued.
-/

namespace FleetControl

/-- Whether the engine founds a cluster or joins one that exists. -/
inductive InitialClusterState where
  | new
  | existing
deriving DecidableEq, Repr, Inhabited

/-- The word for the state on the engine's command line. -/
def InitialClusterState.word : InitialClusterState → String
  | .new => "new"
  | .existing => "existing"

/-- The configuration of one member. Its paths are held as texts, or as the operating system has
them. -/
structure MemberConfig (Path : Type := String) where
  name : String
  dataDir : Path
  walDir : Path
  /-- Where clients reach the member. -/
  clientUrls : List String
  /-- Where the other members reach it. -/
  peerUrls : List String
  /-- Pairs `name=peerURL` of the whole fleet, separated by commas. -/
  initialCluster : String
  initialClusterToken : String
  initialClusterState : InitialClusterState
  clientTls : TlsMode Path
  peerTls : TlsMode Path
deriving DecidableEq, Repr, Inhabited

namespace MemberConfig

/-- The same configuration with its paths held in another way. -/
def mapPaths {Path Other : Type} (f : Path → Other) (config : MemberConfig Path) :
    MemberConfig Other :=
  { config with
    dataDir := f config.dataDir
    walDir := f config.walDir
    clientTls := config.clientTls.mapPaths f
    peerTls := config.peerTls.mapPaths f }

/-- The first client URL; empty where there is none. -/
def clientUrl (config : MemberConfig) : String := config.clientUrls.headD ""

/-- The first peer URL; empty where there is none. -/
def peerUrl (config : MemberConfig) : String := config.peerUrls.headD ""

/-- The host part of the first client URL. -/
def clientHost (config : MemberConfig) : String := Address.hostOf config.clientUrl

/-- The client endpoints, with their schemes or reduced to their host parts. -/
def clientEndpoints (config : MemberConfig) (scheme : Bool) : List String :=
  config.clientUrls.map fun endpoint => if scheme then endpoint else Address.hostOf endpoint

/-- Field names, in declaration order. -/
def fieldNames : List String :=
  ["name", "data_dir", "wal_dir", "client_urls", "peer_urls", "initial_cluster",
    "initial_cluster_token", "initial_cluster_state", "client_tls", "peer_tls"]

/-- Reads the state of the initial cluster. -/
def readState? : Value → Option InitialClusterState
  | .text "New" => some .new
  | .text "Existing" => some .existing
  | .table [("New", .null)] => some .new
  | .table [("Existing", .null)] => some .existing
  | _ => none

/-- Reads a configuration. Every field is required. -/
def ofValue? (v : Value) : Option MemberConfig := do
  match ← v.record? fieldNames with
  | [name, dataDir, walDir, clientUrls, peerUrls, cluster, token, state, clientTls, peerTls] =>
      return {
        name := ← Value.required Value.text? name
        dataDir := ← Value.required Value.text? dataDir
        walDir := ← Value.required Value.text? walDir
        clientUrls := ← Value.required Value.texts? clientUrls
        peerUrls := ← Value.required Value.texts? peerUrls
        initialCluster := ← Value.required Value.text? cluster
        initialClusterToken := ← Value.required Value.text? token
        initialClusterState := ← Value.required readState? state
        clientTls := ← Value.required TlsMode.ofValue? clientTls
        peerTls := ← Value.required TlsMode.ofValue? peerTls }
  | _ => none

/-- A configuration as plain data. -/
def toValue (config : MemberConfig) : Value :=
  .table [
    ("name", .text config.name),
    ("data_dir", .text config.dataDir),
    ("wal_dir", .text config.walDir),
    ("client_urls", .ofTexts config.clientUrls),
    ("peer_urls", .ofTexts config.peerUrls),
    ("initial_cluster", .text config.initialCluster),
    ("initial_cluster_token", .text config.initialClusterToken),
    ("initial_cluster_state",
      .text (match config.initialClusterState with | .new => "New" | .existing => "Existing")),
    ("client_tls", config.clientTls.toValue),
    ("peer_tls", config.peerTls.toValue)]

end MemberConfig

end FleetControl
