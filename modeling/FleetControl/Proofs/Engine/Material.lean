import FleetControl.Engine.Material

/-!
# What a successful issuance did

Giving a configuration its material goes through three stages: the authority is found or made, and
then each channel is resolved with it. A configuration whose channels ask for nothing goes through
none of them.
-/

namespace FleetControl

namespace MemberConfig

/-- The security of a channel. -/
def modeOf (config : MemberConfig) : Channel → TlsMode
  | .client => config.clientTls
  | .peer => config.peerTls

/-- The URLs of a channel. -/
def urlsOf (config : MemberConfig) : Channel → List String
  | .client => config.clientUrls
  | .peer => config.peerUrls

/-- No channel asks for issued material. -/
def Settled (config : MemberConfig) : Prop := ∀ channel, config.modeOf channel ≠ .auto

theorem settled_iff {config : MemberConfig} :
    config.Settled ↔ config.clientTls ≠ .auto ∧ config.peerTls ≠ .auto where
  mp hsettled := ⟨hsettled .client, hsettled .peer⟩
  mpr hneither channel := by cases channel <;> simp [modeOf, hneither]

instance (config : MemberConfig) : Decidable config.Settled :=
  decidable_of_iff _ settled_iff.symm

end MemberConfig

namespace Engine

/-- The last part of the name under which a channel's material is issued. -/
def roleOf : Channel → String
  | .client => "-client"
  | .peer => "-peer"

variable {files written : Files} {authority : Authority}

namespace Authority

variable {path text dir fileName : String} {hosts : List String} {key : Nat} {info : TlsInfo}

theorem writeFile_eq_ok (hwrite : writeFile files path text = (written, .ok ())) :
    files.writeText path text = .ok written := by
  unfold writeFile at hwrite
  split at hwrite
  next htext => rw [htext, (Prod.mk.inj hwrite).1]
  next => simp at hwrite

theorem writeFile_of_ok (hwrite : files.writeText path text = .ok written) :
    writeFile files path text = (written, .ok ()) := by
  rw [writeFile, hwrite]

/-- A new authority has its certificate in its directory. -/
theorem generate_eq_ok (hgenerate : generate files dir key = (written, .ok authority)) :
    authority = ⟨dir, key⟩ ∧ ∃ made, files.makeAll dir = (made, .ok ()) ∧
      made.writeText authority.caFile authority.certificate.text = .ok written := by
  unfold generate at hgenerate
  split at hgenerate
  next => simp at hgenerate
  next made hmade =>
    dsimp only at hgenerate
    split at hgenerate
    next hwritten =>
      obtain ⟨rfl, hsame⟩ := Prod.mk.inj hgenerate
      obtain rfl := Except.ok.inj hsame
      exact ⟨rfl, made, hmade, writeFile_eq_ok hwritten⟩
    next => simp at hgenerate

/-- What is issued is a certificate of the authority for the given hosts with its private key, both
in files. -/
theorem issue_eq_ok (hissue : issue files authority fileName hosts key = (written, .ok info)) :
    ∃ (certificate : Certificate) (between : Files),
      certificate.signer = authority.key ∧ certificate.names = hosts.map SubjectName.ofHost ∧
      files.writeText info.certFile certificate.text = .ok between ∧
      between.writeText info.keyFile (PrivateKey.text key) = .ok written ∧
      info = { certFile := Path.join authority.dir (fileName ++ ".pem")
               keyFile := Path.join authority.dir (fileName ++ ".key")
               trustedCaFile := authority.caFile } := by
  unfold issue at hissue
  split at hissue
  next => simp at hissue
  next =>
    dsimp only at hissue
    split at hissue
    next => simp at hissue
    next between hcertificate =>
      split at hissue
      next => simp at hissue
      next hkey =>
        obtain ⟨rfl, hinfo⟩ := Prod.mk.inj hissue
        obtain rfl := Except.ok.inj hinfo
        exact ⟨_, between, rfl, rfl, writeFile_eq_ok hcertificate, writeFile_eq_ok hkey, rfl⟩

end Authority

namespace Issuer

variable {issuer after : Issuer} {dir fileName : String} {urls : List String}
  {mode resolved : TlsMode} {config canonical : MemberConfig}

/-- The remembered authority serves its own directory as long as its certificate is there. -/
theorem authorityOf_cases
    (hauthority : issuer.authorityOf files dir = (after, written, .ok authority)) :
    issuer.authority = some authority ∧ Path.same authority.dir dir = true ∧
        after = issuer ∧ written = files ∨
      (∀ old, issuer.authority = some old → Path.same old.dir dir = true →
        old.isPresent files = false) ∧
      after = ⟨some authority, issuer.drawn + 1⟩ ∧
      Authority.generate files dir issuer.drawn = (written, .ok authority) := by
  unfold authorityOf at hauthority
  split at hauthority
  next remembered hfilter =>
    obtain ⟨rfl, hwritten⟩ := Prod.mk.inj hauthority
    obtain ⟨rfl, hsame⟩ := Prod.mk.inj hwritten
    obtain rfl := Except.ok.inj hsame
    obtain ⟨hremembered, hserves⟩ := Option.filter_eq_some_iff.mp hfilter
    exact .inl ⟨hremembered, (Bool.and_eq_true_iff.mp hserves).1, rfl, rfl⟩
  next hfilter =>
    split at hauthority
    next => simp at hauthority
    next made hgenerate =>
      obtain ⟨rfl, hwritten⟩ := Prod.mk.inj hauthority
      obtain ⟨rfl, hsame⟩ := Prod.mk.inj hwritten
      obtain rfl := Except.ok.inj hsame
      refine .inr ⟨fun old hold hdir => ?_, rfl, hgenerate⟩
      simpa [hold, hdir] using hfilter

theorem resolve_cases (hresolve :
    issuer.resolve files authority fileName urls mode = (after, written, .ok resolved)) :
    mode ≠ .auto ∧ resolved = mode ∧ after = issuer ∧ written = files ∨
      mode = .auto ∧ after = { issuer with drawn := issuer.drawn + 1 } ∧
        ∃ info, resolved = .manual info ∧
          authority.issue files fileName (certifiedHosts urls) issuer.drawn =
            (written, .ok info) := by
  cases mode with
  | auto =>
      unfold resolve at hresolve
      dsimp only at hresolve
      split at hresolve
      next made info hissue =>
        obtain ⟨rfl, hwritten⟩ := Prod.mk.inj hresolve
        obtain ⟨rfl, hinfo⟩ := Prod.mk.inj hwritten
        exact .inr ⟨rfl, rfl, info, (Except.ok.inj hinfo).symm, hissue⟩
      next => simp at hresolve
  | none | manual =>
      obtain ⟨rfl, hwritten⟩ := Prod.mk.inj hresolve
      obtain ⟨rfl, hsame⟩ := Prod.mk.inj hwritten
      exact .inl ⟨by simp, (Except.ok.inj hsame).symm, rfl, rfl⟩

/-- A configuration that asks for no material is returned as it is, and nothing is issued. -/
theorem canonicalize_of_settled (hsettled : config.Settled) :
    issuer.canonicalize files config = (issuer, files, .ok config) := by
  rw [canonicalize, if_pos (MemberConfig.settled_iff.mp hsettled)]

/-- The stages through which a configuration that asks for material goes. -/
theorem canonicalize_cases
    (hcanonical : issuer.canonicalize files config = (after, written, .ok canonical)) :
    config.Settled ∧ after = issuer ∧ written = files ∧ canonical = config ∨
      ¬ config.Settled ∧ ∃ found made authority half drawn clientTls peerTls,
        issuer.authorityOf files (issuedDir config) = (found, made, .ok authority) ∧
        found.resolve made authority (config.name ++ "-client") config.clientUrls config.clientTls =
          (half, drawn, .ok clientTls) ∧
        half.resolve drawn authority (config.name ++ "-peer") config.peerUrls config.peerTls =
          (after, written, .ok peerTls) ∧
        canonical = { config with clientTls, peerTls } := by
  by_cases hsettled : config.Settled
  · rw [canonicalize_of_settled hsettled] at hcanonical
    obtain ⟨rfl, hwritten⟩ := Prod.mk.inj hcanonical
    obtain ⟨rfl, hsame⟩ := Prod.mk.inj hwritten
    exact .inl ⟨hsettled, rfl, rfl, (Except.ok.inj hsame).symm⟩
  · unfold canonicalize at hcanonical
    rw [if_neg (mt MemberConfig.settled_iff.mpr hsettled)] at hcanonical
    split at hcanonical
    next => simp at hcanonical
    next found made authority hauthority =>
      split at hcanonical
      next => simp at hcanonical
      next half drawn clientTls hclient =>
        split at hcanonical
        next => simp at hcanonical
        next last final peerTls hpeer =>
          obtain ⟨rfl, hwritten⟩ := Prod.mk.inj hcanonical
          obtain ⟨rfl, hsame⟩ := Prod.mk.inj hwritten
          exact .inr ⟨hsettled, found, made, authority, half, drawn, clientTls, peerTls,
            hauthority, hclient, hpeer, (Except.ok.inj hsame).symm⟩

/-- A channel that asks for material gets some, and another one stays as it is. -/
theorem modeOf_of_canonicalize
    (hcanonical : issuer.canonicalize files config = (after, written, .ok canonical))
    (channel : Channel) :
    config.modeOf channel ≠ .auto ∧ canonical.modeOf channel = config.modeOf channel ∨
      config.modeOf channel = .auto ∧ ∃ info, canonical.modeOf channel = .manual info := by
  rcases canonicalize_cases hcanonical with ⟨hsettled, -, -, rfl⟩ |
    ⟨-, found, made, authority, half, drawn, clientTls, peerTls, -, hclient, hpeer, rfl⟩
  · exact .inl ⟨hsettled channel, rfl⟩
  · cases channel with
    | client =>
        rcases resolve_cases hclient with ⟨hother, hsame, -⟩ | ⟨hauto, -, info, hinfo, -⟩
        · exact .inl ⟨hother, hsame⟩
        · exact .inr ⟨hauto, info, hinfo⟩
    | peer =>
        rcases resolve_cases hpeer with ⟨hother, hsame, -⟩ | ⟨hauto, -, info, hinfo, -⟩
        · exact .inl ⟨hother, hsame⟩
        · exact .inr ⟨hauto, info, hinfo⟩

end Issuer

end Engine

end FleetControl
