import FleetControl.Network.Client
import FleetControl.Proofs.Address
import FleetControl.Proofs.Engine.Issuance
import FleetControl.Proofs.Fleet.Inheritance

/-!
# Security and schemes

The layout writes the scheme of a channel's URLs before the channel has its material. The engine
adapter then resolves the channel and leaves the URLs alone, and a restart hands back what was
resolved. So the two agree at every moment: a channel has `https` URLs exactly if it has material,
and clients are set up accordingly.
-/

namespace FleetControl

open ConfigNote Engine

namespace MemberConfig

/-- A configuration of the same member in which every channel that asks for material has some, and
the other channels are as they are. -/
structure EquippedFor (config asked : MemberConfig) : Prop extends SameMember config asked where
  settled : config.Settled
  kept : ∀ channel, asked.modeOf channel ≠ .auto → config.modeOf channel = asked.modeOf channel
  issued : ∀ channel, asked.modeOf channel = .auto → ∃ info, config.modeOf channel = .manual info

/-- Neither this configuration nor the one with which its member joins again is changed by the
engine adapter, and nothing is issued for them. -/
def Stable (config : MemberConfig) : Prop :=
  ∀ (issuer : Issuer) (files : Files),
    issuer.canonicalize files config = (issuer, files, .ok config) ∧
    issuer.canonicalize files config.joining = (issuer, files, .ok config.joining)

/-- Every channel has one URL. Its scheme is `https` if the channel has material and `http` if it is
plain, and so does a client find it who is set up for the member. -/
structure SecuredAsSaid (config : MemberConfig) : Prop where
  channels : ∀ channel, ∃ url, config.urlsOf channel = [url] ∧
    (Address.schemeOf url = "https" ↔ ∃ info, config.modeOf channel = .manual info) ∧
    (Address.schemeOf url = "http" ↔ config.modeOf channel = .none)
  clients : ∀ files tls, Network.clientTls files config = .ok tls →
    (tls.isSome = true ↔ Address.schemeOf config.clientUrl = "https") ∧
    (tls.isSome = false ↔ Address.schemeOf config.clientUrl = "http")

variable {config asked old founding : MemberConfig}

@[simp] theorem modeOf_joining (config : MemberConfig) (channel : Channel) :
    config.joining.modeOf channel = config.modeOf channel := by
  cases channel <;> rfl

theorem Settled.joining (hsettled : config.Settled) : config.joining.Settled :=
  fun channel => config.modeOf_joining channel ▸ hsettled channel

theorem Settled.stable (hsettled : config.Settled) : config.Stable := fun _ _ =>
  ⟨Issuer.canonicalize_of_settled hsettled, Issuer.canonicalize_of_settled hsettled.joining⟩

theorem SameMember.urlsOf_eq (hsame : config.SameMember asked) (channel : Channel) :
    config.urlsOf channel = asked.urlsOf channel := by
  cases channel with
  | client => exact hsame.clientUrls
  | peer => exact hsame.peerUrls

/-- What was resolved once is kept when the member joins again. -/
theorem EquippedFor.rejoined (hold : old.EquippedFor founding)
    (hagain : config.EquippedFor old.joining) : config.EquippedFor founding where
  toSameMember := hagain.toSameMember.trans hold.toSameMember.joining
  settled := hagain.settled
  kept channel hother := by
    have hmode := hold.kept channel hother
    have hasked : old.joining.modeOf channel ≠ .auto := hold.settled.joining channel
    rw [hagain.kept channel hasked, modeOf_joining, hmode]
  issued channel hauto := by
    obtain ⟨info, hinfo⟩ := hold.issued channel hauto
    have hasked : old.joining.modeOf channel ≠ .auto := hold.settled.joining channel
    exact ⟨info, by rw [hagain.kept channel hasked, modeOf_joining, hinfo]⟩

/-- A channel that is given material keeps its scheme. -/
theorem EquippedFor.scheme_eq (hequipped : config.EquippedFor asked) (channel : Channel) :
    (config.modeOf channel).scheme = (asked.modeOf channel).scheme := by
  by_cases hauto : asked.modeOf channel = .auto
  · obtain ⟨info, hinfo⟩ := hequipped.issued channel hauto
    rw [hinfo, hauto]
    rfl
  · rw [hequipped.kept channel hauto]

end MemberConfig

/-- Of a resolved mode, the scheme says what it is. -/
theorem TlsMode.scheme_iff {mode : TlsMode} (hresolved : mode ≠ .auto) :
    (mode.scheme = "https" ↔ ∃ info, mode = .manual info) ∧
      (mode.scheme = "http" ↔ mode = .none) := by
  cases mode with
  | auto => exact absurd rfl hresolved
  | none => simp [scheme]
  | manual info => simp [scheme]

namespace Engine.Issuer

variable {issuer after : Issuer} {files written : Files} {config canonical : MemberConfig}

/-- What the engine adapter returns is the configuration that it was given, with its material. -/
theorem equippedFor_of_canonicalize
    (hcanonical : issuer.canonicalize files config = (after, written, .ok canonical)) :
    canonical.EquippedFor config ∧ canonical.initialClusterState = config.initialClusterState := by
  have hfields : canonical.SameMember config ∧
      canonical.initialClusterState = config.initialClusterState := by
    rcases canonicalize_cases hcanonical with ⟨-, -, -, rfl⟩ |
      ⟨-, -, -, -, -, -, clientTls, peerTls, -, -, -, rfl⟩
    · exact ⟨.refl canonical, rfl⟩
    · exact ⟨⟨rfl, rfl, rfl, rfl, rfl, rfl, rfl⟩, rfl⟩
  have hmodes := modeOf_of_canonicalize hcanonical
  refine ⟨⟨hfields.1, fun channel => ?_, fun channel hother => ?_, fun channel hauto => ?_⟩,
    hfields.2⟩
  · rcases hmodes channel with ⟨hother, hsame⟩ | ⟨-, info, hinfo⟩
    · rwa [hsame]
    · simp [hinfo]
  · rcases hmodes channel with ⟨-, hsame⟩ | ⟨hauto, -⟩
    · exact hsame
    · exact absurd hauto hother
  · rcases hmodes channel with ⟨hother, -⟩ | ⟨-, hinfo⟩
    · exact absurd hauto hother
    · exact hinfo

end Engine.Issuer

/-- A client of a member gets material exactly if the member's client channel has some. -/
theorem Network.isSome_clientTls {files : Files} {config : MemberConfig} {tls : Option ClientTls}
    (htls : clientTls files config = .ok tls) :
    tls.isSome = true ↔ ∃ info, config.modeOf .client = .manual info := by
  unfold clientTls at htls
  simp only [MemberConfig.modeOf]
  split at htls
  next info hmode =>
    cases hread : ClientTls.ofInfo files info (Address.nameOf config.clientUrl) with
    | error fault => simp [hread] at htls
    | ok read =>
        rw [hread] at htls
        obtain rfl := Except.ok.inj htls
        simp [hmode]
  next hmode =>
    obtain rfl := Except.ok.inj htls
    simp [hmode]
  next hmode =>
    obtain rfl := Except.ok.inj htls
    simp [hmode]

namespace Layout

variable {settings : FleetSettings} {token : String} {configs : List MemberConfig}

/-- The layout gives every channel one URL, with the scheme of its mode. -/
theorem exists_url_of_mem (hvalid : settings.validate = .ok ())
    (hconfigs : memberConfigs settings token = .ok configs) :
    ∀ founding ∈ configs, ∀ channel, ∃ host port,
      founding.urlsOf channel = [Address.url (founding.modeOf channel).scheme host port] := by
  obtain ⟨common, -, hlaidOut⟩ := memberConfigs_eq hvalid token
  obtain rfl := Except.ok.inj (hconfigs.symm.trans hlaidOut)
  intro founding hmem channel
  obtain ⟨slot, -, rfl⟩ := List.mem_map.mp hmem
  cases channel <;> exact ⟨_, _, rfl⟩

end Layout

/-- A configuration that is equipped for what the layout says is secured as its URLs say. -/
theorem MemberConfig.EquippedFor.securedAsSaid {config founding : MemberConfig}
    (hequipped : config.EquippedFor founding)
    (hurls : ∀ channel, ∃ host port,
      founding.urlsOf channel = [Address.url (founding.modeOf channel).scheme host port]) :
    config.SecuredAsSaid := by
  have hchannels : ∀ channel, ∃ url, config.urlsOf channel = [url] ∧
      (Address.schemeOf url = "https" ↔ ∃ info, config.modeOf channel = .manual info) ∧
      (Address.schemeOf url = "http" ↔ config.modeOf channel = .none) := by
    intro channel
    obtain ⟨host, port, hurl⟩ := hurls channel
    refine ⟨_, (hequipped.toSameMember.urlsOf_eq channel).trans hurl, ?_⟩
    rw [Address.schemeOf_url, ← hequipped.scheme_eq]
    exact TlsMode.scheme_iff (hequipped.settled channel)
  refine ⟨hchannels, fun files tls htls => ?_⟩
  obtain ⟨url, hurl, hhttps, hhttp⟩ := hchannels .client
  have hclient : config.clientUrl = url := by
    rw [clientUrl, show config.clientUrls = [url] from hurl, List.headD_cons]
  have hplain : config.modeOf .client = .none ↔ ¬ ∃ info, config.modeOf .client = .manual info := by
    have hsettled := hequipped.settled .client
    cases hmode : config.modeOf .client <;> simp_all
  rw [hclient, hhttps, hhttp, hplain, ← Bool.not_eq_true, Network.isSome_clientTls htls]
  exact ⟨.rfl, .rfl⟩

/-- The configuration is what the engine adapter makes of the one that was asked for, whatever it
remembers then and whatever the tree holds. -/
def Canonical (config asked : MemberConfig) : Prop :=
  ∃ issuer files after written, Issuer.canonicalize issuer files asked = (after, written, .ok config)

theorem passes_canonical : Passes Canonical MemberConfig.EquippedFor where
  founded := fun ⟨_, _, _, _, hcanonical⟩ => (Issuer.equippedFor_of_canonicalize hcanonical).1
  rejoined hold := fun ⟨_, _, _, _, hcanonical⟩ =>
    hold.rejoined (Issuer.equippedFor_of_canonicalize hcanonical).1

/-- For settings that are accepted, what the engine adapter makes of a configuration of the layout
differs from it at most in the channels that asked for material, which have some then; the adapter
leaves it alone from then on, and the security of its channels is what their URLs say. Both are also
true of every configuration in force while a fleet runs with this adapter, however often its members
are restarted and whatever comes of that. -/
theorem canonical_security_agrees_with_urls {settings : FleetSettings}
    (hvalid : settings.validate = .ok ()) :
    (∀ token configs, Layout.memberConfigs settings token = .ok configs → ∀ founding ∈ configs,
      ∀ issuer files after written config,
        Issuer.canonicalize issuer files founding = (after, written, .ok config) →
        config.EquippedFor founding ∧ config.initialClusterState = founding.initialClusterState ∧
        config.Stable ∧ config.SecuredAsSaid) ∧
    ∀ notes system, Chronicle settings notes system → Gives Canonical notes →
      ∀ slot config, system.fleet.config? slot = some config →
        config.Stable ∧ config.SecuredAsSaid := by
  constructor
  · intro token configs hconfigs founding hmem issuer files after written config hcanonical
    obtain ⟨hequipped, hstate⟩ := Issuer.equippedFor_of_canonicalize hcanonical
    exact ⟨hequipped, hstate, hequipped.settled.stable,
      hequipped.securedAsSaid (Layout.exists_url_of_mem hvalid hconfigs founding hmem)⟩
  · intro notes system chronicle hgives slot config hconfig
    obtain ⟨token, configs, -, hconfigs, hinherits, -⟩ :=
      chronicle.exists_inherits passes_canonical hgives
    obtain ⟨founding, hfounding, hequipped⟩ := hinherits.inherited slot config hconfig
    have hurls := Layout.exists_url_of_mem hvalid hconfigs founding (List.mem_of_getElem? hfounding)
    exact ⟨hequipped.settled.stable, hequipped.securedAsSaid hurls⟩

/-- Settings of a fleet of one member whose client channel is to get its material issued. -/
def securedSettings : FleetSettings := { soloSettings with tls := { client := .ofAuto } }

theorem memberConfigs_secured :
    Layout.memberConfigs securedSettings "secured" = .ok [securedMember "fleet" "member-0"] := rfl

/-- The member gets its material when it is first launched, and keeps it when it is stopped and
launched again. -/
theorem secured_member_keeps_material :
    securedSettings.validate = .ok () ∧ ∃ after written config notes system info,
      Issuer.canonicalize {} (emptyHomes ["fleet"]) (securedMember "fleet" "member-0") =
        (after, written, .ok config) ∧
      config.clientTls = .manual info ∧ config.Stable ∧ config.SecuredAsSaid ∧
      Chronicle securedSettings notes system ∧ Gives Canonical notes ∧
      requests 0 notes = [securedMember "fleet" "member-0", config.joining] ∧
      ∃ again, system.fleet.config? 0 = some again ∧ again.Stable ∧ again.SecuredAsSaid := by
  have hvalid : securedSettings.validate = .ok () := by decide
  obtain ⟨after, written, config, hcanonical⟩ := exists_canonical_secured
  obtain ⟨hlaidOut, hrunning⟩ := canonical_security_agrees_with_urls hvalid
  obtain ⟨hequipped, -, hstable, hsecured⟩ := hlaidOut "secured" _ memberConfigs_secured _
    (List.mem_singleton.mpr rfl) _ _ _ _ _ hcanonical
  obtain ⟨info, hinfo⟩ := hequipped.issued .client rfl
  obtain ⟨system, hchronicle⟩ :=
    exists_sole_restart hvalid memberConfigs_secured prepareDirectory_solo rfl config
  have hagain : Canonical config.joining config.joining := ⟨_, _, _, _, (hstable {} {}).2⟩
  have hgives : Gives Canonical ([.asked 0 (securedMember "fleet" "member-0"), .given 0 config] ++
      [.asked 0 config.joining, .given 0 config.joining]) :=
    Gives.answer (Gives.answer Gives.nil 0 ⟨_, _, _, _, hcanonical⟩) 0 hagain
  obtain ⟨_, configs, -, hconfigs, hinherits⟩ :=
    hchronicle.exists_inherits passes_canonical hgives
  have hsize : 0 < system.fleet.members.length := by
    rw [hinherits.size, Layout.length_memberConfigs hconfigs]
    exact Nat.zero_lt_one
  obtain ⟨member, hmember⟩ := Fleet.exists_member? hsize
  have hforce : system.fleet.config? 0 = some member.config :=
    Option.map_eq_some_iff.mpr ⟨member, hmember, rfl⟩
  exact ⟨hvalid, after, written, config, _, system, info, hcanonical, hinfo, hstable, hsecured,
    hchronicle, hgives, rfl, _, hforce, hrunning _ system hchronicle hgives 0 _ hforce⟩

end FleetControl
