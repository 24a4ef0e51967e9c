import FleetControl.Proofs.Fleet.Addresses

/-!
# The list of all members, written and read back

Every member is told the names and peer URLs of all members in one text, which it takes apart at the
commas. Nothing is quoted in it, so it is read back as it was meant only where no name and no URL
has a comma in it. Names and ports have none; the host is the operator's, and it is checked for
nothing but being blank. Every comma in the host adds a piece for every member.
-/

namespace FleetControl.Layout

open FleetControl.Number

/-! ### Pieces of a text -/

section

variable {mark : Char} {text : List Char} {texts : List (List Char)}

theorem pieces_of_not_mem (hmark : mark ∉ text) : pieces mark text = [text] :=
  List.splitOn_eq_singleton hmark

/-- Every mark begins one more piece. -/
theorem length_pieces (mark : Char) (text : List Char) :
    (pieces mark text).length = text.count mark + 1 := by
  unfold pieces
  induction text with
  | nil => rfl
  | cons head rest ih =>
      rw [List.splitOn_cons_eq_if_modifyHead, List.count_cons]
      split
      next => rw [List.length_cons, ih]
      next => rw [List.length_modifyHead, ih, Nat.add_zero]

/-- Texts that are joined come apart into the pieces of each of them. -/
theorem pieces_intercalate (htexts : texts ≠ []) :
    pieces mark ([mark].intercalate texts) = texts.flatMap (pieces mark) := by
  induction texts with
  | nil => exact absurd rfl htexts
  | cons first rest ih =>
      cases rest with
      | nil => simp
      | cons second rest =>
          rw [List.flatMap_cons, ← ih (List.cons_ne_nil _ _), List.intercalate_cons_cons,
            List.append_assoc, List.singleton_append]
          exact List.splitOn_append_cons_self _ _

end

/-! ### One entry of the list -/

/-- What stands in the list for one member. -/
def entry (member : String × String) : String := member.1 ++ "=" ++ member.2

/-- A piece of the list, taken apart at its first equals sign. -/
def readEntry (piece : List Char) : String × String :=
  (String.ofList (piece.takeWhile (· ≠ '=')), String.ofList ((piece.dropWhile (· ≠ '=')).drop 1))

/-- An equals sign in the URL does no harm, as the name before it has none. -/
theorem readEntry_entry {member : String × String} (hname : '=' ∉ member.1.toList) :
    readEntry (entry member).toList = member := by
  have hall : ∀ char ∈ member.1.toList, decide (char ≠ '=') = true := by
    intro char hmem
    rw [decide_eq_true_iff]
    rintro rfl
    exact hname hmem
  have hchars : (entry member).toList = member.1.toList ++ '=' :: member.2.toList := by
    simp [entry]
  rw [readEntry, hchars, List.takeWhile_append_of_pos hall, List.dropWhile_append_of_pos hall]
  simp

/-! ### The whole list -/

section

variable {members : List (String × String)}

theorem initialCluster_eq (configs : List MemberConfig) :
    initialCluster configs =
      ",".intercalate ((configs.map fun config => (config.name, config.peerUrl)).map entry) := by
  rw [initialCluster, List.map_map]
  rfl

/-- What is read from a list is read from the pieces of its entries. -/
theorem readInitialCluster_intercalate (hmembers : members ≠ []) :
    readInitialCluster (",".intercalate (members.map entry)) =
      (members.flatMap fun member => pieces ',' (entry member).toList).map readEntry := by
  have hchars : (",".intercalate (members.map entry)).toList =
      [','].intercalate (members.map fun member => (entry member).toList) := by
    rw [String.toList_intercalate, List.map_map]
    rfl
  have htexts : members.map (fun member => (entry member).toList) ≠ [] := by
    simpa using hmembers
  unfold readInitialCluster
  rw [hchars, pieces_intercalate htexts, List.flatMap_map]
  rfl

/-- Entries without a comma are read back one by one. -/
theorem readInitialCluster_of_not_mem (hmembers : members ≠ [])
    (hname : ∀ member ∈ members, '=' ∉ member.1.toList)
    (hcomma : ∀ member ∈ members, ',' ∉ (entry member).toList) :
    readInitialCluster (",".intercalate (members.map entry)) = members := by
  rw [readInitialCluster_intercalate hmembers, List.map_flatMap]
  calc members.flatMap (fun member => (pieces ',' (entry member).toList).map readEntry)
      = members.flatMap fun member => [member] := by
        refine List.flatMap_congr fun member hmem => ?_
        rw [pieces_of_not_mem (hcomma member hmem), List.map_singleton,
          readEntry_entry (hname member hmem)]
    _ = members := List.flatMap_singleton' members

/-- Where every entry has the same number of commas, each is read as that many pieces and one
more. -/
theorem length_readInitialCluster {commas : Nat} (hmembers : members ≠ [])
    (hcomma : ∀ member ∈ members, (entry member).toList.count ',' = commas) :
    (readInitialCluster (",".intercalate (members.map entry))).length =
      members.length * (commas + 1) := by
  rw [readInitialCluster_intercalate hmembers, List.length_map, List.length_flatMap,
    List.map_congr_left fun member hmem => by
      rw [length_pieces, hcomma member hmem]]
  simp

end

/-! ### The list that accepted settings give -/

theorem not_mem_memberName {char : Char} (hlead : char ∉ "member-".toList)
    (hdigit : char.isDigit = false) (slot : Nat) : char ∉ (memberName slot).toList := by
  rw [memberName, String.toList_append, List.mem_append, not_or]
  exact ⟨hlead, not_mem_decimal hdigit slot⟩

/-- All commas of an entry are those of the host. -/
theorem count_comma_entry (mode : TlsMode) (host : String) (port slot : Nat) :
    (entry (memberName slot, Address.url mode.scheme host port)).toList.count ',' =
      host.toList.count ',' := by
  have hname : (memberName slot).toList.count ',' = 0 :=
    List.count_eq_zero.mpr (not_mem_memberName (by decide) (by decide) slot)
  have hport : (decimal port).toList.count ',' = 0 :=
    List.count_eq_zero.mpr (not_mem_decimal (by decide) port)
  have hscheme : mode.scheme.toList.count ',' = 0 := by cases mode <;> simp [TlsMode.scheme]
  simp only [entry, Address.url, String.toList_append, List.count_append, hname, hport, hscheme]
  simp

variable {settings : FleetSettings}

theorem size_ne_zero_of_validate (hvalid : settings.validate = .ok ()) :
    settings.fleet.size.toNat ≠ 0 := by
  intro hzero
  have hsize : settings.fleet.size = 0 := UInt64.toNat_inj.mp hzero
  have hfleet := (FleetSettings.sections_of_validate hvalid).1
  rw [FleetSection.validate, if_pos hsize] at hfleet
  exact nomatch hfleet

/-- The names and peer URLs of all members, in order. -/
def roster (settings : FleetSettings) (peerTls : TlsMode) : List (String × String) :=
  (List.range settings.fleet.size.toNat).map fun slot =>
    (memberName slot, Address.url peerTls.scheme settings.fleet.host (peerPort settings slot))

theorem roster_ne_nil (hvalid : settings.validate = .ok ()) (peerTls : TlsMode) :
    roster settings peerTls ≠ [] := by
  simpa [roster] using size_ne_zero_of_validate hvalid

/-- What has the names and peer URLs that are laid out gives the roster. -/
theorem map_eq_roster {common : Common} (hfleet : common.fleet = settings.fleet)
    {config : Nat → MemberConfig}
    (hlaid : ∀ slot, (config slot).name = (common.laidOut slot).name ∧
      (config slot).peerUrls = (common.laidOut slot).peerUrls) :
    ((List.range settings.fleet.size.toNat).map config).map
      (fun config => (config.name, config.peerUrl)) = roster settings common.peerTls := by
  rw [List.map_map]
  refine List.map_congr_left fun slot _ => ?_
  obtain ⟨hname, hurls⟩ := hlaid slot
  simp only [Function.comp_apply, MemberConfig.peerUrl, hname, hurls, Common.laidOut,
    List.headD_cons, hfleet, peerPort, portStride, Nat.mul_comm]

/-- The list is read back exactly where the host has no comma: otherwise there are more pieces than
members. -/
theorem readInitialCluster_roster_iff (hvalid : settings.validate = .ok ()) (peerTls : TlsMode) :
    readInitialCluster (",".intercalate ((roster settings peerTls).map entry)) =
        roster settings peerTls ↔
      ',' ∉ settings.fleet.host.toList := by
  have hentries : ∀ member ∈ roster settings peerTls,
      (entry member).toList.count ',' = settings.fleet.host.toList.count ',' := by
    intro member hmem
    obtain ⟨slot, -, rfl⟩ := List.mem_map.mp hmem
    exact count_comma_entry ..
  constructor
  · intro hread
    have hlength := length_readInitialCluster (roster_ne_nil hvalid peerTls) hentries
    have hpos := List.length_pos_iff.mpr (roster_ne_nil hvalid peerTls)
    rw [hread, Nat.mul_add, Nat.mul_one, Nat.right_eq_add, Nat.mul_eq_zero] at hlength
    exact List.count_eq_zero.mp (hlength.resolve_left (Nat.ne_of_gt hpos))
  · intro hcomma
    refine readInitialCluster_of_not_mem (roster_ne_nil hvalid peerTls) ?_ fun member hmem => ?_
    · intro member hmem
      obtain ⟨slot, -, rfl⟩ := List.mem_map.mp hmem
      exact not_mem_memberName (by decide) (by decide) slot
    · exact List.count_eq_zero.mp ((hentries member hmem).trans (List.count_eq_zero.mpr hcomma))

/-- Accepted settings can be laid out, and all members share one list of all members. That list,
split at the commas and each piece at its first equals sign, gives the names and peer URLs of all
members, in order, exactly where the host has no comma. -/
theorem descriptor_reads_back_iff_host_has_no_comma (hvalid : settings.validate = .ok ())
    (token : String) :
    ∃ peerTls configs cluster,
      settings.tls.peerMode = .ok peerTls ∧ memberConfigs settings token = .ok configs ∧
      configs.length = settings.fleet.size.toNat ∧
      (∀ config ∈ configs, config.initialCluster = cluster) ∧
      configs.map (fun config => (config.name, config.peerUrl)) =
        (List.range settings.fleet.size.toNat).map (fun slot =>
          (memberName slot,
            Address.url peerTls.scheme settings.fleet.host (peerPort settings slot))) ∧
      (readInitialCluster cluster = configs.map (fun config => (config.name, config.peerUrl)) ↔
        ',' ∉ settings.fleet.host.toList) := by
  obtain ⟨common, hcommon, hconfigs⟩ := memberConfigs_eq hvalid token
  obtain ⟨-, hpeer, hfleet, -⟩ := eq_of_ofSettings hcommon
  have hlaid : ∀ slot, (common.laidOut slot).name = (common.laidOut slot).name ∧
      (common.laidOut slot).peerUrls = (common.laidOut slot).peerUrls := fun _ => ⟨rfl, rfl⟩
  have hbefore := map_eq_roster hfleet hlaid
  refine ⟨common.peerTls, _, initialCluster ((List.range settings.fleet.size.toNat).map
    common.laidOut), hpeer, hconfigs, by simp, ?_, ?_, ?_⟩
  · intro config hmem
    obtain ⟨slot, -, rfl⟩ := List.mem_map.mp hmem
    rfl
  · exact map_eq_roster hfleet fun _ => ⟨rfl, rfl⟩
  · rw [initialCluster_eq, hbefore, map_eq_roster hfleet]
    · exact readInitialCluster_roster_iff hvalid common.peerTls
    · exact fun _ => ⟨rfl, rfl⟩

/-- Settings whose host is two hosts in one. -/
def twoHostSettings : FleetSettings :=
  { fleet := { size := 2, host := "alpha,beta" } }

/-- The settings with two hosts in one are accepted, and their list is misread. -/
theorem two_hosts_in_one_are_misread :
    twoHostSettings.validate = .ok () ∧ edgeSettings.validate = .ok () ∧
      (∃ configs config, memberConfigs twoHostSettings "two" = .ok configs ∧ config ∈ configs ∧
        readInitialCluster config.initialCluster ≠
          configs.map fun config => (config.name, config.peerUrl)) ∧
      ∃ configs config, memberConfigs edgeSettings "edge" = .ok configs ∧ config ∈ configs ∧
        readInitialCluster config.initialCluster =
          configs.map fun config => (config.name, config.peerUrl) := by
  have htwo : twoHostSettings.validate = .ok () := by decide
  have hedge : edgeSettings.validate = .ok () := by decide
  refine ⟨htwo, hedge, ?_, ?_⟩
  · obtain ⟨-, configs, cluster, -, hconfigs, hlength, hcluster, -, hiff⟩ :=
      descriptor_reads_back_iff_host_has_no_comma htwo "two"
    have hsome : 0 < configs.length := by
      rw [hlength]
      decide
    have hmem := List.getElem_mem hsome
    refine ⟨configs, configs[0], hconfigs, hmem, ?_⟩
    rw [hcluster _ hmem]
    exact fun hread => absurd (hiff.mp hread) (by decide)
  · obtain ⟨-, configs, cluster, -, hconfigs, hlength, hcluster, -, hiff⟩ :=
      descriptor_reads_back_iff_host_has_no_comma hedge "edge"
    have hsome : 0 < configs.length := by
      rw [hlength]
      decide
    have hmem := List.getElem_mem hsome
    refine ⟨configs, configs[0], hconfigs, hmem, ?_⟩
    rw [hcluster _ hmem]
    exact hiff.mpr (by decide)

end FleetControl.Layout
