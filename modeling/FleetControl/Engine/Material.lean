import FleetControl.Engine.Authority
import FleetControl.Member.Config

/-!
# Issued material

Before a member is launched, channels whose security was left to the engine adapter get material
issued by the authority of the fleet's directory, and count as manual from then on. The adapter
remembers one authority. It makes a new one where the directory is another than before, or where the
certificate of the remembered one has gone.
-/

namespace FleetControl.Engine

/-- What the adapter remembers: an authority, and how many key pairs were drawn. -/
structure Issuer where
  authority : Option Authority := none
  drawn : Nat := 0
deriving DecidableEq, Repr, Inhabited

/-- The directory below a fleet's directory that holds issued material. -/
def issuedDirName : String := "auto-tls"

/-- The hosts that a certificate for the given URLs has to name: their host names, sorted and
without repetitions. -/
def certifiedHosts (urls : List String) : List String :=
  ((urls.map Address.nameOf).mergeSort fun a b => a ≤ b).eraseReps

/-- The directory that holds a member's data directory; the data directory itself if nothing does. -/
def homeOf (config : MemberConfig) : String := (Path.parent? config.dataDir).getD config.dataDir

/-- Where material for a member is issued. -/
def issuedDir (config : MemberConfig) : String := Path.join (homeOf config) issuedDirName

namespace Issuer

/-- The authority of a directory: the remembered one, or a new one that is remembered from now on. -/
def authorityOf (issuer : Issuer) (files : Files) (dir : String) :
    Issuer × Files × Except Error Authority :=
  match issuer.authority.filter fun a => Path.same a.dir dir && a.isPresent files with
  | some authority => (issuer, files, .ok authority)
  | none =>
      match Authority.generate files dir issuer.drawn with
      | (files, .error e) => ({ issuer with drawn := issuer.drawn + 1 }, files, .error e)
      | (files, .ok authority) =>
          ({ authority := some authority, drawn := issuer.drawn + 1 }, files, .ok authority)

/-- Resolves one channel: a mode that asks for issued material gets it. -/
def resolve (issuer : Issuer) (files : Files) (authority : Authority) (fileName : String)
    (urls : List String) : TlsMode → Issuer × Files × Except Error TlsMode
  | .auto =>
      let drawn := { issuer with drawn := issuer.drawn + 1 }
      match authority.issue files fileName (certifiedHosts urls) issuer.drawn with
      | (files, .ok info) => (drawn, files, .ok (.manual info))
      | (files, .error e) => (drawn, files, .error e)
  | mode => (issuer, files, .ok mode)

/-- Gives a member's channels the material they ask for. A configuration that asks for none is
returned as it is, and no authority is made for it. -/
def canonicalize (issuer : Issuer) (files : Files) (config : MemberConfig) :
    Issuer × Files × Except Error MemberConfig :=
  if config.clientTls ≠ .auto ∧ config.peerTls ≠ .auto then (issuer, files, .ok config)
  else
    match issuer.authorityOf files (issuedDir config) with
    | (issuer, files, .error e) => (issuer, files, .error e)
    | (issuer, files, .ok authority) =>
        match issuer.resolve files authority (config.name ++ "-client") config.clientUrls
            config.clientTls with
        | (issuer, files, .error e) => (issuer, files, .error e)
        | (issuer, files, .ok clientTls) =>
            match issuer.resolve files authority (config.name ++ "-peer") config.peerUrls
                config.peerTls with
            | (issuer, files, .error e) => (issuer, files, .error e)
            | (issuer, files, .ok peerTls) =>
                (issuer, files, .ok { config with clientTls, peerTls })

end Issuer

end FleetControl.Engine
