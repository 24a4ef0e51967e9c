import FleetControl.Proofs.Address
import FleetControl.Proofs.Files.Components
import FleetControl.Proofs.Fleet.Layout
import Mathlib.Data.List.Nodup

/-!
# Addresses of the members

Accepted settings fix everything that is laid out, and no sum overflows on the way. No two members
have a port in common, since a slot's number counts twice and the last port is below the number of
ports, and no two of all directories are the same, since they end in different components.
-/

namespace FleetControl

open FleetControl.Number

theorem FleetSection.rootPort_ne_zero {fleet : FleetSection} (hvalid : fleet.validate = .ok ()) :
    fleet.rootPort.toNat ≠ 0 := by
  intro hzero
  have hport : fleet.rootPort = 0 := UInt16.toNat_inj.mp hzero
  unfold validate at hvalid
  split at hvalid
  next => simp [refuse] at hvalid
  next => simp [refuse] at hvalid

namespace Layout

/-! ### Names -/

theorem memberName_injective : Function.Injective memberName := by
  intro slot other hsame
  have hchars : (decimal slot).toList = (decimal other).toList := by
    simpa [memberName] using congrArg String.toList hsame
  exact decimal_injective (String.toList_inj.mp hchars)

theorem slash_not_mem_memberName (slot : Nat) : '/' ∉ (memberName slot).toList := by
  simp [memberName, slash_not_mem_decimal]

/-! ### Ports -/

/-- The port of a member for its clients. -/
def clientPort (settings : FleetSettings) (slot : Nat) : Nat :=
  settings.fleet.rootPort.toNat + 2 * slot

/-- The port of a member for the other members. -/
def peerPort (settings : FleetSettings) (slot : Nat) : Nat :=
  settings.fleet.rootPort.toNat + 2 * slot + 1

/-- The ports of all members. -/
def ports (settings : FleetSettings) : List Nat :=
  (List.range settings.fleet.size.toNat).flatMap fun slot =>
    [clientPort settings slot, peerPort settings slot]

theorem nodup_ports (settings : FleetSettings) : (ports settings).Nodup := by
  refine List.nodup_flatMap.mpr ⟨fun slot _ => ?_, ?_⟩
  · simp [clientPort, peerPort]
  · refine List.nodup_range.imp fun {slot other} hne => ?_
    simp only [Function.onFun, List.disjoint_left, List.mem_cons, List.not_mem_nil, or_false,
      clientPort, peerPort]
    omega

theorem port_of_mem_ports {settings : FleetSettings} (hvalid : settings.fleet.validate = .ok ())
    {port : Nat} (hport : port ∈ ports settings) : port ≠ 0 ∧ port ≤ 65535 := by
  obtain ⟨slot, hslot, hmem⟩ := List.mem_flatMap.mp hport
  have hroot := FleetSection.rootPort_ne_zero hvalid
  have hpeer := FleetSection.peerPort_lt hvalid (List.mem_range.mp hslot)
  have hword : wordCount 16 = 65536 := by decide
  simp only [List.mem_cons, List.not_mem_nil, or_false, clientPort, peerPort] at hmem
  simp only [portStride] at hpeer
  omega

/-! ### Directories -/

theorem components_dataDir (rootDir : String) (slot : Nat) :
    Path.components (dataDir rootDir slot) =
      Path.components rootDir ++ [memberName slot ++ ".etcd"] := by
  have hslash : '/' ∉ (memberName slot ++ ".etcd").toList := by
    simp [slash_not_mem_memberName]
  have hlength : 5 ≤ (memberName slot ++ ".etcd").length := by
    rw [String.length_append]
    exact Nat.le_add_left ..
  refine Path.components_join_name _ hslash ?_ ?_
  · intro hempty
    simp [hempty] at hlength
  · intro hdot
    exact absurd (hdot ▸ hlength) (by decide)

theorem components_walDir (rootDir : String) (slot : Nat) :
    Path.components (Path.join (dataDir rootDir slot) "wal") =
      Path.components rootDir ++ [memberName slot ++ ".etcd", "wal"] := by
  rw [Path.components_join_name _ (by decide) (by decide) (by decide), components_dataDir,
    List.append_assoc]
  rfl

/-- Directories of one member lie at different depths, and those of different members below
directories of different names. -/
theorem nodup_directories (rootDir : String) (count : Nat) :
    (((List.range count).flatMap fun slot =>
      [dataDir rootDir slot, Path.join (dataDir rootDir slot) "wal"]).map
        Path.components).Nodup := by
  simp only [List.map_flatMap, List.map_cons, List.map_nil, components_dataDir, components_walDir]
  refine List.nodup_flatMap.mpr ⟨fun slot _ => by simp, ?_⟩
  refine List.nodup_range.imp fun {slot other} hne => ?_
  simp [Function.onFun, (memberName_injective.ne hne).symm]

/-! ### The layout -/

variable {settings : FleetSettings}

/-- A member is named for its slot and reached at the ports of its slot. -/
structure Addressed (settings : FleetSettings) (clientTls peerTls : TlsMode) (slot : Nat)
    (config : MemberConfig) : Prop where
  name : config.name = "member-" ++ decimal slot
  clientUrls : config.clientUrls =
    [Address.url clientTls.scheme settings.fleet.host (clientPort settings slot)]
  peerUrls : config.peerUrls =
    [Address.url peerTls.scheme settings.fleet.host (peerPort settings slot)]

/-- Accepted settings can be laid out. There is a configuration for every member, in which its name
and its URLs follow from its slot. All ports are ports, and no two are the same; nor are two names,
nor two directories, even where paths are compared by their components. All members share the token
and the list of all members. -/
theorem accepted_settings_have_distinct_addresses (hvalid : settings.validate = .ok ())
    (token : String) :
    ∃ clientTls peerTls configs,
      settings.tls.clientMode = .ok clientTls ∧ settings.tls.peerMode = .ok peerTls ∧
      memberConfigs settings token = .ok configs ∧
      configs.length = settings.fleet.size.toNat ∧
      (∀ slot config, configs[slot]? = some config →
        Addressed settings clientTls peerTls slot config ∧
        config.initialCluster = initialCluster configs ∧ config.initialClusterToken = token) ∧
      (ports settings).Nodup ∧ (∀ port ∈ ports settings, port ≠ 0 ∧ port ≤ 65535) ∧
      (configs.map (·.name)).Nodup ∧
      (configs.flatMap fun config => [config.dataDir, config.walDir]).Pairwise
        (Path.same · · = false) := by
  obtain ⟨common, hcommon, hconfigs⟩ := memberConfigs_eq hvalid token
  obtain ⟨hclient, hpeer, hfleet, htoken⟩ := eq_of_ofSettings hcommon
  refine ⟨common.clientTls, common.peerTls, _, hclient, hpeer, hconfigs, by simp, ?_,
    nodup_ports settings, fun port =>
      port_of_mem_ports (FleetSettings.sections_of_validate hvalid).1, ?_, ?_⟩
  · intro slot config hconfig
    rw [List.getElem?_map, Option.map_eq_some_iff] at hconfig
    obtain ⟨place, hplace, rfl⟩ := hconfig
    obtain ⟨-, rfl⟩ := List.getElem?_eq_some_iff.mp hplace
    rw [List.getElem_range]
    refine ⟨⟨rfl, ?_, ?_⟩, ?_, htoken⟩
    · simp only [Common.laidOut, hfleet, portStride, clientPort, Nat.mul_comm]
    · simp only [Common.laidOut, hfleet, portStride, peerPort, Nat.mul_comm]
    -- The list of all members is made before it is written into the configurations.
    · simp only [initialCluster, MemberConfig.peerUrl, List.map_map, Function.comp_def]
  · rw [List.map_map]
    exact List.nodup_range.map memberName_injective
  · have hdirs := nodup_directories common.fleet.rootDir settings.fleet.size.toNat
    simp only [List.flatMap_map, Common.laidOut]
    exact (List.pairwise_map.mp hdirs).imp Path.same_eq_false

/-- Settings under which the last of three members has the last two ports that there are. -/
def edgeSettings : FleetSettings :=
  { fleet := { size := 3, rootPort := 65530 }, tls := { peer := .ofAuto } }

theorem edge_settings_have_distinct_addresses :
    edgeSettings.validate = .ok () ∧ ∃ (configs : List MemberConfig) (config : MemberConfig),
      memberConfigs edgeSettings "edge" = .ok configs ∧ configs.length = 3 ∧
      configs[2]? = some config ∧ config.name = "member-2" ∧
      config.clientUrls = ["http://localhost:65534"] ∧
      config.peerUrls = ["https://localhost:65535"] ∧
      config.initialCluster = initialCluster configs ∧ config.initialClusterToken = "edge" := by
  have hvalid : edgeSettings.validate = .ok () := by decide
  obtain ⟨clientTls, peerTls, configs, hclient, hpeer, hconfigs, hlength, hmembers, -⟩ :=
    accepted_settings_have_distinct_addresses hvalid "edge"
  obtain rfl : .none = clientTls := Except.ok.inj hclient
  obtain rfl : .auto = peerTls := Except.ok.inj hpeer
  have hthree : configs.length = 3 := hlength
  have hlast := List.getElem?_eq_getElem (show 2 < configs.length by omega)
  obtain ⟨haddressed, hcluster, htoken⟩ := hmembers 2 _ hlast
  have hname : "member-" ++ decimal 2 = "member-2" := by decide
  have hclientUrl :
      Address.url "http" "localhost" (clientPort edgeSettings 2) = "http://localhost:65534" := by
    decide
  have hpeerUrl :
      Address.url "https" "localhost" (peerPort edgeSettings 2) = "https://localhost:65535" := by
    decide
  refine ⟨hvalid, configs, _, hconfigs, hthree, hlast, haddressed.name.trans hname, ?_, ?_,
    hcluster, htoken⟩
  · rw [haddressed.clientUrls, ← hclientUrl]
    rfl
  · rw [haddressed.peerUrls, ← hpeerUrl]
    rfl

end Layout

end FleetControl
