import FleetControl.Engine.Certificate
import FleetControl.Files.Tree
import FleetControl.Member.Config
import FleetControl.Network.HostName
import FleetControl.Network.Uri

/-!
# Clients of a member

How a client of one member is set up: what it needs to verify the member and to identify itself, and
whether its address and that material can be used at all. Only manual security yields material, since
issued material has become manual before a member is ever called.
-/

namespace FleetControl.Network

open FleetControl.Engine

/-- What a client of a secured member works with. -/
structure ClientTls where
  /-- The name that the member's certificate must carry. -/
  domain : String
  /-- The text of the trusted certificates. -/
  trusted : Option String := none
  /-- The texts of the client's own certificate and private key. -/
  identity : Option (String × String) := none
deriving DecidableEq, Repr, Inhabited

/-- Reads a file of key material. -/
def readMaterial (files : Files) (path : String) : Except NetworkFault String :=
  match files.readText path with
  | .ok text => .ok text
  | .error fault => .error (.tlsMaterial path fault)

/-- Reads the material that the paths name. An identity needs both of its files. -/
def ClientTls.ofInfo (files : Files) (info : TlsInfo) (domain : String) :
    Except NetworkFault ClientTls := do
  let trusted ←
    if info.trustedCaFile.isEmpty then pure none
    else some <$> readMaterial files info.trustedCaFile
  let identity ←
    if info.certFile.isEmpty || info.keyFile.isEmpty then pure none
    else do
      let certificate ← readMaterial files info.certFile
      let key ← readMaterial files info.keyFile
      pure (some (certificate, key))
  return { domain, trusted, identity }

/-- What a client of the given member works with; nothing if the member's client channel is not
secured by material. -/
def clientTls (files : Files) (config : MemberConfig) : Except NetworkFault (Option ClientTls) :=
  match config.clientTls with
  | .manual info => some <$> ClientTls.ofInfo files info (Address.nameOf config.clientUrl)
  | .none => .ok none
  | .auto => .ok none

/-- The material can be used: the trusted certificates are readable, the identity is a certificate
with its own private key, and the domain is a name that a certificate can carry. -/
def ClientTls.isUsable (tls : ClientTls) : Bool :=
  let trusted := tls.trusted.all fun text => (Certificate.all? text).isSome
  let identity := tls.identity.all fun (certificates, key) =>
    match Certificate.all? certificates, PrivateKey.first? key with
    | some (certificate :: _), some key => certificate.key = key
    | _, _ => false
  trusted && identity && HostName.isServerName tls.domain

/-- Accepts an address to which a client with the given material can connect. The address is looked
at before the material. -/
def checkEndpoint (url : String) (tls : Option ClientTls) : Except NetworkFault Unit :=
  if !Uri.isUri url then .error (.invalidUri url)
  else if tls.all ClientTls.isUsable then .ok ()
  else .error .transport

end FleetControl.Network
