import FleetControl.Files.OsPath
import FleetControl.Member.Config

/-!
# Engine arguments

The arguments with which the engine is launched for one member. Every field is one argument with
its value attached, so no field can be taken for another; the arguments for channel security come
last and are there only where a channel is secured. Arguments are texts: a path that does not spell
one is an argument only in the way in which it is shown.
-/

namespace FleetControl

/-- Texts are handed over as the paths that they spell. -/
instance : Coe MemberConfig (MemberConfig OsPath) := ⟨MemberConfig.mapPaths .ofString⟩

namespace Engine

/-- The arguments for the security of one channel. The channel to the peers has a prefix. -/
def tlsArguments (channelPrefix : String) : TlsMode OsPath → List String
  | .none => []
  | .auto => ["--" ++ channelPrefix ++ "auto-tls"]
  | .manual info =>
      ["--" ++ channelPrefix ++ "cert-file=" ++ info.certFile.display,
        "--" ++ channelPrefix ++ "key-file=" ++ info.keyFile.display] ++
        (if info.trustedCaFile.isEmpty then []
          else ["--" ++ channelPrefix ++ "trusted-ca-file=" ++ info.trustedCaFile.display]) ++
        (if info.clientCertAuth then ["--" ++ channelPrefix ++ "client-cert-auth"] else [])

/-- The arguments for one member. -/
def arguments (config : MemberConfig OsPath) : List String :=
  let clientUrls := ",".intercalate config.clientUrls
  let peerUrls := ",".intercalate config.peerUrls
  ["--name=" ++ config.name,
    "--data-dir=" ++ config.dataDir.display,
    "--wal-dir=" ++ config.walDir.display,
    "--listen-client-urls=" ++ clientUrls,
    "--advertise-client-urls=" ++ clientUrls,
    "--listen-peer-urls=" ++ peerUrls,
    "--initial-advertise-peer-urls=" ++ peerUrls,
    "--initial-cluster=" ++ config.initialCluster,
    "--initial-cluster-token=" ++ config.initialClusterToken,
    "--initial-cluster-state=" ++ config.initialClusterState.word] ++
    tlsArguments "" config.clientTls ++ tlsArguments "peer-" config.peerTls

end Engine

end FleetControl
