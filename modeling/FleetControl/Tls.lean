import FleetControl.Value

/-!
# Channel security

Each of a member's two channels, the one to clients and the one to its peers, is either plain,
secured with material that the operator provides, or secured with material that the engine adapter
issues at start. Asking for both kinds of material on one channel is ambiguous.
-/

namespace FleetControl

/-- Paths of the key material of one channel; an empty path is not set. Paths are held as texts, or
as the operating system has them. -/
structure TlsInfo (Path : Type := String) where
  certFile : Path := by exact ""
  keyFile : Path := by exact ""
  trustedCaFile : Path := by exact ""
  /-- The remote side must present a certificate signed by the trusted authority. -/
  clientCertAuth : Bool := false
deriving DecidableEq, Repr

instance {Path : Type} [Inhabited Path] : Inhabited (TlsInfo Path) :=
  ⟨⟨default, default, default, false⟩⟩

/-- No path is set. -/
def TlsInfo.isEmpty (info : TlsInfo) : Bool :=
  info.certFile.isEmpty && info.keyFile.isEmpty && info.trustedCaFile.isEmpty

/-- What the settings select for one channel. -/
structure TlsSelection where
  /-- Material is issued by the engine adapter. -/
  auto : Bool := false
  /-- Material provided by the operator. -/
  manual : TlsInfo := {}
deriving DecidableEq, Repr, Inhabited

/-- The resolved security of one channel. -/
inductive TlsMode (Path : Type := String) where
  | none
  | manual (info : TlsInfo Path)
  | auto
deriving DecidableEq, Repr, Inhabited

/-- The two channels of a member. -/
inductive Channel where
  | client
  | peer
deriving DecidableEq, Repr

/-- The word for a channel in messages. -/
def Channel.word : Channel → String
  | .client => "client"
  | .peer => "peer"

/-- The scheme of the URLs of a channel. -/
def TlsMode.scheme : TlsMode → String
  | .none => "http"
  | .manual _ => "https"
  | .auto => "https"

/-- The security that a selection stands for, or nothing where it is ambiguous. -/
def TlsSelection.mode? (selection : TlsSelection) : Option TlsMode :=
  match selection.auto, selection.manual.isEmpty with
  | true, false => none
  | true, true => some .auto
  | false, false => some (.manual selection.manual)
  | false, true => some .none

namespace TlsInfo

/-- The same material with its paths held in another way. -/
def mapPaths {Path Other : Type} (f : Path → Other) (info : TlsInfo Path) : TlsInfo Other where
  certFile := f info.certFile
  keyFile := f info.keyFile
  trustedCaFile := f info.trustedCaFile
  clientCertAuth := info.clientCertAuth

/-- Field names, in declaration order. -/
def fieldNames : List String := ["cert_file", "key_file", "trusted_ca_file", "client_cert_auth"]

/-- Reads key material paths. -/
def ofValue? (v : Value) : Option TlsInfo := do
  match ← v.record? fieldNames with
  | [cert, key, ca, auth] =>
      return {
        certFile := ← Value.optional Value.text? "" cert
        keyFile := ← Value.optional Value.text? "" key
        trustedCaFile := ← Value.optional Value.text? "" ca
        clientCertAuth := ← Value.optional Value.bool? false auth }
  | _ => none

/-- Key material paths as plain data. -/
def toValue (info : TlsInfo) : Value :=
  .table [("cert_file", .text info.certFile), ("key_file", .text info.keyFile),
    ("trusted_ca_file", .text info.trustedCaFile), ("client_cert_auth", .bool info.clientCertAuth)]

end TlsInfo

namespace TlsSelection

/-- The selection of material that the operator provides. -/
def ofManual (info : TlsInfo) : TlsSelection := { auto := false, manual := info }

/-- The selection of issued material. -/
def ofAuto : TlsSelection := { auto := true }

/-- Reads the selection for one channel. -/
def ofValue? (v : Value) : Option TlsSelection := do
  match ← v.record? ["auto_tls", "manual"] with
  | [auto, manual] =>
      return {
        auto := ← Value.optional Value.bool? false auto
        manual := ← Value.optional TlsInfo.ofValue? {} manual }
  | _ => none

/-- The selection for one channel as plain data. -/
def toValue (selection : TlsSelection) : Value :=
  .table [("auto_tls", .bool selection.auto), ("manual", selection.manual.toValue)]

end TlsSelection

namespace TlsMode

/-- The same mode with its paths held in another way. -/
def mapPaths {Path Other : Type} (f : Path → Other) : TlsMode Path → TlsMode Other
  | .none => .none
  | .manual info => .manual (info.mapPaths f)
  | .auto => .auto

/-- Reads a resolved mode: its name, or a table whose one entry has the mode's name. Only the manual
mode carries data. -/
def ofValue? : Value → Option TlsMode
  | .text "None" => some .none
  | .text "Auto" => some .auto
  | .table [("None", .null)] => some .none
  | .table [("Auto", .null)] => some .auto
  | .table [("Manual", info)] => (TlsInfo.ofValue? info).map .manual
  | _ => Option.none

/-- A resolved mode as plain data. -/
def toValue : TlsMode → Value
  | .none => .text "None"
  | .auto => .text "Auto"
  | .manual info => .table [("Manual", info.toValue)]

end TlsMode

end FleetControl
