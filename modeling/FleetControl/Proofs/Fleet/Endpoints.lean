import FleetControl.Proofs.Fleet.Inheritance
import FleetControl.Proofs.Network.Lookup
import Mathlib.Data.List.Induction

/-!
# Where members are found

The index is made from the layout and tells members apart by the host parts of their client URLs.
These keep the port, and no two members have one port, unless the host itself has a slash in it: the
port is then cut off, all members have one host part, and the last one answers for all.
-/

namespace FleetControl

open FleetControl.Number ConfigNote

theorem MemberConfig.clientHost_eq {config : MemberConfig} {url : String}
    (hurls : config.clientUrls = [url]) : config.clientHost = Address.hostOf url := by
  rw [clientHost, clientUrl, hurls, List.headD_cons]

/-! ### The index -/

namespace EndpointIndex

variable {configs : List MemberConfig} {endpoint : String}

theorem find?_ofConfigs_concat (configs : List MemberConfig) (config : MemberConfig) :
    (ofConfigs (configs ++ [config])).find? endpoint =
      if config.clientHost = Address.hostOf endpoint then some configs.length
      else (ofConfigs configs).find? endpoint := by
  have hconcat : ofConfigs (configs ++ [config]) =
      (ofConfigs configs).insert config.clientUrl configs.length := by
    simp [ofConfigs, List.zipIdx_append]
  rw [hconcat, find?_insert]
  rfl

theorem find?_ofConfigs_eq_none
    (hnone : ∀ config ∈ configs, Address.hostOf endpoint ≠ config.clientHost) :
    (ofConfigs configs).find? endpoint = none := by
  induction configs using List.reverseRecOn with
  | nil => rfl
  | append_singleton configs config ih =>
      have hother : Address.hostOf endpoint ≠ config.clientHost := hnone config (by simp)
      rw [find?_ofConfigs_concat, if_neg hother.symm]
      exact ih fun config hmem => hnone config (List.mem_append_left _ hmem)

/-- Of the members with the host part of an endpoint, the last one is found. -/
theorem find?_ofConfigs {slot : Nat} {config : MemberConfig} (hslot : configs[slot]? = some config)
    (hhost : config.clientHost = Address.hostOf endpoint)
    (hlast : ∀ later other, slot < later → configs[later]? = some other →
      other.clientHost ≠ Address.hostOf endpoint) :
    (ofConfigs configs).find? endpoint = some slot := by
  induction configs using List.reverseRecOn with
  | nil => simp at hslot
  | append_singleton configs final ih =>
      rw [find?_ofConfigs_concat]
      -- The entry made last decides if its host part is the one that is looked for.
      have hfinal : (configs ++ [final])[configs.length]? = some final := by simp
      rcases Nat.lt_or_ge slot configs.length with hlt | hge
      · rw [if_neg (hlast _ final hlt hfinal)]
        refine ih (by rwa [List.getElem?_append_left hlt] at hslot) fun later other hlater hother =>
          hlast later other hlater ?_
        rw [List.getElem?_append_left (List.getElem?_eq_some_iff.mp hother).1, hother]
      · have hbound := (List.getElem?_eq_some_iff.mp hslot).1
        obtain rfl : slot = configs.length := by
          rw [List.length_append, List.length_singleton] at hbound
          omega
        obtain rfl : final = config := Option.some.inj (hfinal.symm.trans hslot)
        exact if_pos hhost

/-- Members that clients reach under one host at different ports are told apart where the host has
no slash in it; otherwise the last one is found for each of them. -/
theorem find?_ofConfigs_of_urls {mode : TlsMode} {host : String} {root slot : Nat}
    (hurls : ∀ slot config, configs[slot]? = some config →
      config.clientUrls = [Address.url mode.scheme host (root + slot * portStride)])
    (hslot : slot < configs.length)
    (hendpoint : Address.hostOf endpoint =
      Address.hostOf (Address.url mode.scheme host (root + slot * portStride))) :
    (ofConfigs configs).find? endpoint =
      some (if '/' ∈ host.toList then configs.length - 1 else slot) := by
  have hhosts : ∀ slot config, configs[slot]? = some config → config.clientHost =
      Address.hostOf (Address.url mode.scheme host (root + slot * portStride)) :=
    fun slot config hconfig => MemberConfig.clientHost_eq (hurls slot config hconfig)
  split
  next hslash =>
    -- All members have one host part, and nobody comes after the last one.
    have hfinal : configs.length - 1 < configs.length := by omega
    refine find?_ofConfigs (List.getElem?_eq_getElem hfinal) ?_ fun later other hlater hother => ?_
    · rw [hhosts _ _ (List.getElem?_eq_getElem hfinal), hendpoint,
        Address.hostOf_url_of_slash mode _ hslash, Address.hostOf_url_of_slash mode _ hslash]
    · have hbound := (List.getElem?_eq_some_iff.mp hother).1
      omega
  next hslash =>
    -- The host parts end in the ports, and ports are told apart by their digits.
    refine find?_ofConfigs (List.getElem?_eq_getElem hslot) ?_ fun later other hlater hother => ?_
    · rw [hhosts _ _ (List.getElem?_eq_getElem hslot), hendpoint]
    · rw [hhosts later other hother, hendpoint, Address.hostOf_url mode _ hslash,
        Address.hostOf_url mode _ hslash]
      intro hsame
      have hports : root + later * portStride = root + slot * portStride :=
        decimal_injective (by simpa using hsame)
      have hstride : slot * portStride < later * portStride :=
        Nat.mul_lt_mul_of_pos_right hlater Nat.two_pos
      omega

end EndpointIndex

/-! ### An engine that keeps the client URLs -/

namespace ConfigNote

/-- The engine gives every process the client URLs that it was asked for last. -/
def KeepsClientUrls (notes : List ConfigNote) : Prop :=
  ∀ earlier slot config asked, earlier ++ [.given slot config] <+: notes →
    (requests slot earlier).getLast? = some asked → config.clientUrls = asked.clientUrls

theorem Faithful.keepsClientUrls {notes : List ConfigNote} (hfaithful : Faithful notes) :
    KeepsClientUrls notes := fun earlier slot config asked hpart hlast =>
  (hfaithful earlier slot config asked hpart hlast).clientUrls

end ConfigNote

/-- A fleet that was started with an engine that keeps the client URLs serves its clients along the
layout of its settings. -/
theorem Chronicle.exists_serves {settings : FleetSettings} {notes : List ConfigNote}
    {system : System} (chronicle : Chronicle settings notes system)
    (hkeeps : KeepsClientUrls notes) :
    ∃ token configs, settings.validate = .ok () ∧
      Layout.memberConfigs settings token = .ok configs ∧
      system.Inherits (fun config founding => config.clientUrls = founding.clientUrls) configs
        notes :=
  chronicle.exists_inherits ⟨id, fun hold hsame => hsame.trans hold⟩ hkeeps

theorem Chronicle.served {settings : FleetSettings} {notes : List ConfigNote} {system : System}
    (chronicle : Chronicle settings notes system) (hkeeps : KeepsClientUrls notes) :
    system.fleet.endpoints = .ofConfigs system.fleet.configs ∧
      system.fleet.configs.length = settings.fleet.size.toNat ∧
      ∃ mode : TlsMode, ∀ slot config, system.fleet.configs[slot]? = some config →
        config.clientUrls = [Address.url mode.scheme settings.fleet.host
          (settings.fleet.rootPort.toNat + slot * portStride)] := by
  obtain ⟨token, configs, hvalid, hconfigs, hinherits, hsize, -⟩ := chronicle.exists_serves hkeeps
  obtain ⟨mode, hurls⟩ := Layout.clientUrls_of_memberConfigs hvalid hconfigs
  refine ⟨Fleet.endpoints_eq_of_clientUrl hinherits.endpoints hsize fun slot config hconfig => ?_,
    ?_, mode, fun slot config hconfig => ?_⟩
  · obtain ⟨founding, hfounding, hsame⟩ := hinherits.inherited slot config hconfig
    exact ⟨founding, hfounding, by rw [MemberConfig.clientUrl, hsame]; rfl⟩
  · rw [Fleet.configs, List.length_map, hsize, Layout.length_memberConfigs hconfigs]
  · rw [← Fleet.config?_eq] at hconfig
    obtain ⟨founding, hfounding, hsame⟩ := hinherits.inherited slot config hconfig
    rw [hsame, hurls slot founding hfounding]

/-- A member gives out one endpoint, and by that some member is found. -/
theorem Chronicle.exists_endpoint {settings : FleetSettings} {notes : List ConfigNote}
    {system : System} (chronicle : Chronicle settings notes system)
    (hkeeps : KeepsClientUrls notes) {slot : Nat} (hslot : slot < settings.fleet.size.toNat)
    (withScheme : Bool) :
    ∃ endpoint, system.fleet.endpoints? slot withScheme = some [endpoint] ∧
      system.fleet.findByEndpoint? endpoint = some
        (if '/' ∈ settings.fleet.host.toList then settings.fleet.size.toNat - 1 else slot) := by
  obtain ⟨hendpoints, hlength, mode, hurls⟩ := chronicle.served hkeeps
  rw [← hlength] at hslot ⊢
  have hconfig := List.getElem?_eq_getElem hslot
  have hserved : system.fleet.endpoints? slot withScheme =
      some (system.fleet.configs[slot].clientEndpoints withScheme) := by
    rw [Fleet.endpoints?, Fleet.config?_eq, hconfig, Option.map_some]
  rw [hserved, MemberConfig.clientEndpoints, hurls slot _ hconfig]
  refine ⟨_, rfl, ?_⟩
  rw [Fleet.findByEndpoint?, hendpoints]
  refine EndpointIndex.find?_ofConfigs_of_urls hurls hslot ?_
  cases withScheme with
  | false => exact Address.hostOf_hostOf _
  | true => rfl

/-- Whatever happens to a started fleet, as long as the engine keeps the client URLs: where the host
of the settings has no slash in it, every member is found by its endpoints, with and without their
schemes; otherwise the last member is found by the endpoints of all. An endpoint with a host part
that is not the one of any member is not found. -/
theorem endpoints_resolve_unless_host_has_slash {settings : FleetSettings}
    {notes : List ConfigNote} {system : System} (chronicle : Chronicle settings notes system)
    (hkeeps : KeepsClientUrls notes) :
    (∀ slot < settings.fleet.size.toNat, ∀ withScheme, ∃ endpoint,
      system.fleet.endpoints? slot withScheme = some [endpoint] ∧
      system.fleet.findByEndpoint? endpoint =
        some (if '/' ∈ settings.fleet.host.toList then settings.fleet.size.toNat - 1 else slot)) ∧
    ∀ endpoint, (∀ config ∈ system.fleet.configs, Address.hostOf endpoint ≠ config.clientHost) →
      system.fleet.findByEndpoint? endpoint = none := by
  refine ⟨fun slot hslot withScheme => chronicle.exists_endpoint hkeeps hslot withScheme,
    fun endpoint hnone => ?_⟩
  obtain ⟨hendpoints, -⟩ := chronicle.served hkeeps
  rw [Fleet.findByEndpoint?, hendpoints]
  exact EndpointIndex.find?_ofConfigs_eq_none hnone

/-- Settings of a fleet of two members at this host. -/
def pairSettings (host : String) : FleetSettings :=
  { fleet := { size := 2, rootDir := "fleet", host } }

/-- Such a fleet can be started with a faithful engine. -/
theorem exists_pair_chronicle {host : String} (hhost : Text.isBlankText host = false) :
    ∃ notes system, Chronicle (pairSettings host) notes system ∧ Faithful notes := by
  have hvalid : (pairSettings host).validate = .ok () := by
    have hlast : (pairSettings host).fleet.lastPeerPort = .ok 2382 := rfl
    have hfleet : (pairSettings host).fleet.validate = .ok () := by
      rw [FleetSection.validate, hlast]
      simp [pairSettings, hhost]
    rw [FleetSettings.validate, hfleet]
    rfl
  obtain ⟨configs, hconfigs⟩ := Layout.exists_memberConfigs hvalid "pair"
  have hlength : configs.length = 2 := Layout.length_memberConfigs hconfigs
  obtain ⟨config, other, rfl⟩ := List.length_eq_two.mp hlength
  obtain ⟨first, opening, begun, start, hbegin, hbegun, hstarted, hfaithful⟩ :=
    Bootstrap.begin_can_echo hvalid hconfigs prepareDirectory_solo {}
  refine ⟨_, _, ⟨_, _, _, _, _, first, opening, begun, start, 0, [], hbegin, hbegun, hstarted,
    .start, rfl⟩, ?_⟩
  rwa [exchanged_nil, List.append_nil]

/-- A fleet of two members at `localhost`; a host without a port is the host part of neither. -/
theorem pair_endpoints_resolve :
    ∃ notes system, Chronicle (pairSettings "localhost") notes system ∧ KeepsClientUrls notes ∧
      (∀ slot < 2, ∀ withScheme, ∃ endpoint,
        system.fleet.endpoints? slot withScheme = some [endpoint] ∧
        system.fleet.findByEndpoint? endpoint = some slot) ∧
      system.fleet.findByEndpoint? "localhost" = none := by
  have hhost : Text.isBlankText "localhost" = false := rfl
  obtain ⟨notes, system, chronicle, hfaithful⟩ := exists_pair_chronicle hhost
  have hkeeps := hfaithful.keepsClientUrls
  obtain ⟨hfound, hnone⟩ := endpoints_resolve_unless_host_has_slash chronicle hkeeps
  have hslash : '/' ∉ (pairSettings "localhost").fleet.host.toList := by decide
  simp only [if_neg hslash] at hfound
  refine ⟨notes, system, chronicle, hkeeps, hfound, hnone _ fun config hmem hsame => ?_⟩
  obtain ⟨-, -, mode, hurls⟩ := chronicle.served hkeeps
  obtain ⟨slot, hslot⟩ := List.getElem?_of_mem hmem
  rw [MemberConfig.clientHost_eq (hurls slot config hslot),
    Address.hostOf_url mode _ hslash] at hsame
  have hcolon : ':' ∈ (Address.hostOf "localhost").toList := by
    rw [hsame]
    simp
  exact absurd hcolon (by decide)

/-- With a slash in the host, the endpoint of the first member leads to the second one. -/
theorem not_every_endpoint_resolves_to_its_member :
    ∃ notes system endpoint, Chronicle (pairSettings "a/b") notes system ∧ KeepsClientUrls notes ∧
      (pairSettings "a/b").validate = .ok () ∧
      system.fleet.endpoints? 0 true = some [endpoint] ∧
      system.fleet.findByEndpoint? endpoint = some 1 := by
  have hhost : Text.isBlankText "a/b" = false := rfl
  obtain ⟨notes, system, chronicle, hfaithful⟩ := exists_pair_chronicle hhost
  have hkeeps := hfaithful.keepsClientUrls
  obtain ⟨-, -, hvalid, -⟩ := chronicle.exists_serves hkeeps
  have hfirst : 0 < (pairSettings "a/b").fleet.size.toNat := by decide
  obtain ⟨endpoint, hendpoint, hfound⟩ := chronicle.exists_endpoint hkeeps hfirst true
  have hslash : '/' ∈ (pairSettings "a/b").fleet.host.toList := by decide
  rw [if_pos hslash] at hfound
  exact ⟨notes, system, endpoint, chronicle, hkeeps, hvalid, hendpoint, hfound⟩

end FleetControl
