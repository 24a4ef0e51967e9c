import FleetControl.Fleet.Layout

/-!
# Settings that are accepted can be laid out

The check of the settings looks at the last port alone. It is the greatest one, so every member has
its two ports, and a layout has a configuration for every slot, with the client URL that the slot's
number gives.
-/

namespace FleetControl

open FleetControl.Number

namespace FleetSection

variable {fleet : FleetSection} {slot : Nat}

theorem eq_of_lastPeerPort {last : Nat} (hlast : fleet.lastPeerPort = .ok last) :
    last = fleet.rootPort.toNat + fleet.size.toNat * portStride - 1 := by
  unfold lastPeerPort multiplyWithin at hlast
  split at hlast
  next =>
    simp only [bind, Except.bind, addWithin] at hlast
    split at hlast
    next => simp at hlast
    next past hpast =>
      split at hpast
      next => rw [← Except.ok.inj hlast, ← Except.ok.inj hpast]
      next => simp at hpast
  next => simp [bind, Except.bind] at hlast

/-- Behind the ports of the last member there may be nothing more. -/
theorem ports_of_validate (hvalid : fleet.validate = .ok ()) :
    fleet.rootPort.toNat + fleet.size.toNat * portStride ≤ wordCount 16 := by
  unfold validate at hvalid
  split at hvalid
  next => simp [refuse] at hvalid
  next =>
    split at hvalid
    next => simp [refuse] at hvalid
    next =>
      split at hvalid
      next => simp at hvalid
      next last hlast =>
        split at hvalid
        next => simp [refuse] at hvalid
        next hfits =>
          have hport := eq_of_lastPeerPort hlast
          have hword : wordCount 16 = 65536 := by decide
          omega

/-- A member has its client port and the one behind it. -/
theorem peerPort_lt (hvalid : fleet.validate = .ok ()) (hslot : slot < fleet.size.toNat) :
    fleet.rootPort.toNat + slot * portStride + 1 < wordCount 16 := by
  have hports := ports_of_validate hvalid
  have hstride : (slot + 1) * portStride ≤ fleet.size.toNat * portStride :=
    Nat.mul_le_mul_right portStride hslot
  have hsucc : (slot + 1) * portStride = slot * portStride + 2 := Nat.succ_mul ..
  omega

theorem clientPort_eq (hvalid : fleet.validate = .ok ()) (hslot : slot < fleet.size.toNat) :
    fleet.clientPort slot = .ok (fleet.rootPort.toNat + slot * portStride) := by
  have hport := peerPort_lt hvalid hslot
  have hgrow : slot ≤ slot * portStride := Nat.le_mul_of_pos_right slot Nat.two_pos
  -- The slot's number lies below its own port, so its low bits are all of it.
  have hsmall : slot % wordCount 16 = slot := Nat.mod_eq_of_lt (by omega)
  rw [clientPort, hsmall, multiplyWithin, if_pos (by omega)]
  exact if_pos (by omega)

end FleetSection

/-- The sections that the layout is made from are accepted. -/
theorem FleetSettings.sections_of_validate {settings : FleetSettings}
    (hvalid : settings.validate = .ok ()) :
    settings.fleet.validate = .ok () ∧ settings.tls.validate = .ok () := by
  unfold validate at hvalid
  cases hfleet : settings.fleet.validate with
  | error stop => simp [hfleet, bind, Except.bind] at hvalid
  | ok =>
      cases htls : settings.tls.validate with
      | error stop => simp [hfleet, htls, bind, Except.bind] at hvalid
      | ok => exact ⟨rfl, rfl⟩

namespace Layout

/-! ### Results for all elements of a list -/

section

variable {α β ε δ : Type} {f : α → Except ε β} {xs : List α} {ys : List β}

@[simp] theorem mapError_ok (f : ε → δ) (x : α) :
    (Except.ok x : Except ε α).mapError f = .ok x := rfl

@[simp] theorem mapError_error (f : ε → δ) (error : ε) :
    (Except.error error : Except ε α).mapError f = .error (f error) := rfl

/-- Results are collected only where there is one for every element. -/
theorem exists_of_mapM_cons {x : α} (hmapM : (x :: xs).mapM f = .ok ys) :
    ∃ y rest, f x = .ok y ∧ xs.mapM f = .ok rest ∧ ys = y :: rest := by
  cases hx : f x with
  | error error => simp [hx, bind, Except.bind] at hmapM
  | ok y =>
      cases hxs : xs.mapM f with
      | error error => simp [hx, hxs, bind, Except.bind] at hmapM
      | ok rest =>
          simp only [List.mapM_cons, hx, hxs, bind, Except.bind, pure, Except.pure,
            Except.ok.injEq] at hmapM
          exact ⟨y, rest, rfl, rfl, hmapM.symm⟩

theorem mapM_eq_map {g : α → β} (hall : ∀ x ∈ xs, f x = .ok (g x)) :
    xs.mapM f = .ok (xs.map g) := by
  induction xs with
  | nil => rfl
  | cons x xs ih =>
      have hx := hall x List.mem_cons_self
      have hxs := ih fun x hmem => hall x (List.mem_cons_of_mem _ hmem)
      simp [hx, hxs, bind, Except.bind, pure, Except.pure]

theorem length_of_mapM (hmapM : xs.mapM f = .ok ys) : ys.length = xs.length := by
  induction xs generalizing ys with
  | nil => simpa [pure, Except.pure] using hmapM
  | cons x xs ih =>
      obtain ⟨y, rest, -, hrest, rfl⟩ := exists_of_mapM_cons hmapM
      rw [List.length_cons, List.length_cons, ih hrest]

/-- Every result is that of the element in its place. -/
theorem getElem?_of_mapM (hmapM : xs.mapM f = .ok ys) {place : Nat} {y : β}
    (hy : ys[place]? = some y) : ∃ x, xs[place]? = some x ∧ f x = .ok y := by
  induction xs generalizing ys place with
  | nil =>
      obtain rfl : [] = ys := by simpa [pure, Except.pure] using hmapM
      simp at hy
  | cons x xs ih =>
      obtain ⟨first, rest, hfirst, hrest, rfl⟩ := exists_of_mapM_cons hmapM
      cases place with
      | zero =>
          obtain rfl : first = y := Option.some.inj hy
          exact ⟨x, rfl, hfirst⟩
      | succ place => exact ih hrest hy

end

/-! ### The configurations of the members -/

variable {settings : FleetSettings} {token : String} {configs : List MemberConfig}

/-- A layout has a configuration for every slot, to which the list of all members is added. -/
theorem exists_of_memberConfigs (hconfigs : memberConfigs settings token = .ok configs) :
    ∃ (common : Common) (members : List MemberConfig),
      Common.ofSettings settings token = .ok common ∧
      (List.range settings.fleet.size.toNat).mapM common.member = .ok members ∧
      configs = members.map fun config =>
        { config with initialCluster := initialCluster members } := by
  unfold memberConfigs at hconfigs
  cases hcommon : Common.ofSettings settings token with
  | error stop => simp [hcommon, bind, Except.bind] at hconfigs
  | ok common =>
      cases hmembers : (List.range settings.fleet.size.toNat).mapM common.member with
      | error overflow =>
          simp [hcommon, hmembers, bind, Except.bind] at hconfigs
      | ok members =>
          simp only [hcommon, hmembers, bind, Except.bind, mapError_ok, pure, Except.pure,
            Except.ok.injEq] at hconfigs
          exact ⟨common, members, rfl, hmembers, hconfigs.symm⟩

/-- There is a configuration for every member. -/
theorem length_memberConfigs (hconfigs : memberConfigs settings token = .ok configs) :
    configs.length = settings.fleet.size.toNat := by
  obtain ⟨common, members, -, hmembers, rfl⟩ := exists_of_memberConfigs hconfigs
  rw [List.length_map, length_of_mapM hmembers, List.length_range]

/-- What all members have in common is what the settings say, with both channels resolved. -/
theorem eq_of_ofSettings {common : Common}
    (hcommon : Common.ofSettings settings token = .ok common) :
    settings.tls.clientMode = .ok common.clientTls ∧ settings.tls.peerMode = .ok common.peerTls ∧
      common.fleet = settings.fleet ∧ common.token = token := by
  unfold Common.ofSettings at hcommon
  cases hclient : settings.tls.clientMode with
  | error error => simp [hclient, bind, Except.bind] at hcommon
  | ok clientTls =>
      cases hpeer : settings.tls.peerMode with
      | error error => simp [hclient, hpeer, bind, Except.bind] at hcommon
      | ok peerTls =>
          simp only [hclient, hpeer, mapError_ok, bind, Except.bind, pure, Except.pure,
            Except.ok.injEq] at hcommon
          rw [← hcommon]
          exact ⟨rfl, rfl, rfl, rfl⟩

theorem fleet_of_ofSettings {common : Common}
    (hcommon : Common.ofSettings settings token = .ok common) : common.fleet = settings.fleet :=
  (eq_of_ofSettings hcommon).2.2.1

theorem exists_ofSettings (hvalid : settings.tls.validate = .ok ()) (token : String) :
    ∃ common, Common.ofSettings settings token = .ok common := by
  unfold TlsSection.validate at hvalid
  cases hclient : settings.tls.clientMode with
  | error error => simp [hclient] at hvalid
  | ok clientTls =>
      cases hpeer : settings.tls.peerMode with
      | error error => simp [hclient, hpeer] at hvalid
      | ok peerTls =>
          simp only [Common.ofSettings, hclient, hpeer, mapError_ok, bind, Except.bind]
          exact ⟨_, rfl⟩

/-- A member has its ports behind one another, is reached by clients at the first and by its peers at
the other, and is laid out to found the cluster. -/
theorem Common.exists_of_member {common : Common} {slot : Nat} {config : MemberConfig}
    (hmember : common.member slot = .ok config) :
    ∃ port, common.fleet.clientPort slot = .ok port ∧
      config.clientUrls = [Address.url common.clientTls.scheme common.fleet.host port] ∧
      config.initialClusterState = .new ∧ ∃ peerPort,
        config.peerUrls = [Address.url common.peerTls.scheme common.fleet.host peerPort] := by
  unfold member at hmember
  cases hport : common.fleet.clientPort slot with
  | error overflow => simp [hport, bind, Except.bind] at hmember
  | ok clientPort =>
      cases hpeer : Number.addWithin 16 clientPort 1 with
      | error overflow => simp [hport, hpeer, bind, Except.bind] at hmember
      | ok peerPort =>
          simp only [hport, hpeer, bind, Except.bind, pure, Except.pure, Except.ok.injEq]
            at hmember
          rw [← hmember]
          exact ⟨clientPort, rfl, rfl, rfl, peerPort, rfl⟩

/-- What is laid out for a slot whose ports exist. -/
def Common.laidOut (common : Common) (slot : Nat) : MemberConfig where
  name := memberName slot
  dataDir := dataDir common.fleet.rootDir slot
  walDir := Path.join (dataDir common.fleet.rootDir slot) "wal"
  clientUrls := [Address.url common.clientTls.scheme common.fleet.host
    (common.fleet.rootPort.toNat + slot * portStride)]
  peerUrls := [Address.url common.peerTls.scheme common.fleet.host
    (common.fleet.rootPort.toNat + slot * portStride + 1)]
  initialCluster := ""
  initialClusterToken := common.token
  initialClusterState := .new
  clientTls := common.clientTls
  peerTls := common.peerTls

theorem Common.member_eq {common : Common} {slot : Nat}
    (hvalid : common.fleet.validate = .ok ()) (hslot : slot < common.fleet.size.toNat) :
    common.member slot = .ok (common.laidOut slot) := by
  have hpeer : addWithin 16 (common.fleet.rootPort.toNat + slot * portStride) 1 =
      .ok (common.fleet.rootPort.toNat + slot * portStride + 1) :=
    if_pos (FleetSection.peerPort_lt hvalid hslot)
  simp only [member, FleetSection.clientPort_eq hvalid hslot, hpeer, bind, Except.bind]
  rfl

/-- The layout of accepted settings. -/
theorem memberConfigs_eq (hvalid : settings.validate = .ok ()) (token : String) :
    ∃ common, Common.ofSettings settings token = .ok common ∧
      memberConfigs settings token =
        .ok ((List.range settings.fleet.size.toNat).map fun slot =>
          { common.laidOut slot with
            initialCluster := initialCluster
              ((List.range settings.fleet.size.toNat).map common.laidOut) }) := by
  obtain ⟨hfleet, htls⟩ := FleetSettings.sections_of_validate hvalid
  obtain ⟨common, hcommon⟩ := exists_ofSettings htls token
  have hsame := fleet_of_ofSettings hcommon
  have hmembers : (List.range settings.fleet.size.toNat).mapM common.member =
      .ok ((List.range settings.fleet.size.toNat).map common.laidOut) :=
    mapM_eq_map fun slot hslot =>
      Common.member_eq (hsame ▸ hfleet) (hsame ▸ List.mem_range.mp hslot)
  refine ⟨common, hcommon, ?_⟩
  simp only [memberConfigs, hcommon, hmembers, mapError_ok, bind, Except.bind, pure, Except.pure,
    List.map_map, Function.comp_def]

theorem exists_memberConfigs (hvalid : settings.validate = .ok ()) (token : String) :
    ∃ configs, memberConfigs settings token = .ok configs := by
  obtain ⟨common, -, hconfigs⟩ := memberConfigs_eq hvalid token
  exact ⟨_, hconfigs⟩

/-- What is laid out for a slot follows from the slot's number. -/
theorem exists_member_of_getElem? (hconfigs : memberConfigs settings token = .ok configs) :
    ∃ common : Common, common.fleet = settings.fleet ∧
      ∀ (slot : Nat) (config : MemberConfig), configs[slot]? = some config →
        slot < settings.fleet.size.toNat ∧
        ∃ member cluster, common.member slot = .ok member ∧
          config = { member with initialCluster := cluster } := by
  obtain ⟨common, members, hcommon, hmembers, rfl⟩ := exists_of_memberConfigs hconfigs
  refine ⟨common, fleet_of_ofSettings hcommon, fun slot config hconfig => ?_⟩
  rw [List.getElem?_map, Option.map_eq_some_iff] at hconfig
  obtain ⟨member, hplace, rfl⟩ := hconfig
  obtain ⟨place, hrange, hmember⟩ := getElem?_of_mapM hmembers hplace
  obtain ⟨hslot, rfl⟩ := List.getElem?_eq_some_iff.mp hrange
  rw [List.getElem_range] at hmember
  exact ⟨by simpa using hslot, member, _, hmember, rfl⟩

/-- Every member is laid out to found the cluster. -/
theorem state_of_memberConfigs (hconfigs : memberConfigs settings token = .ok configs) :
    ∀ config ∈ configs, config.initialClusterState = .new := by
  obtain ⟨common, -, hmembers⟩ := exists_member_of_getElem? hconfigs
  intro config hmem
  obtain ⟨slot, hslot⟩ := List.getElem?_of_mem hmem
  obtain ⟨-, member, cluster, hmember, rfl⟩ := hmembers slot config hslot
  obtain ⟨-, -, -, hstate, -⟩ := Common.exists_of_member hmember
  exact hstate

/-- Clients reach the member of a slot at the port that the slot's number gives. -/
theorem clientUrls_of_memberConfigs (hvalid : settings.validate = .ok ())
    (hconfigs : memberConfigs settings token = .ok configs) :
    ∃ mode : TlsMode, ∀ (slot : Nat) (config : MemberConfig), configs[slot]? = some config →
      config.clientUrls = [Address.url mode.scheme settings.fleet.host
        (settings.fleet.rootPort.toNat + slot * portStride)] := by
  obtain ⟨hfleet, -⟩ := FleetSettings.sections_of_validate hvalid
  obtain ⟨common, hsame, hmembers⟩ := exists_member_of_getElem? hconfigs
  refine ⟨common.clientTls, fun slot config hslot => ?_⟩
  obtain ⟨hlt, member, cluster, hmember, rfl⟩ := hmembers slot config hslot
  obtain ⟨port, hport, hurls, -⟩ := Common.exists_of_member hmember
  rw [hsame, FleetSection.clientPort_eq hfleet hlt] at hport
  rw [Except.ok.inj hport, ← hsame]
  exact hurls

end Layout

end FleetControl
