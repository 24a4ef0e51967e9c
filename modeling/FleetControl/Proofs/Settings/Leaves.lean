import FleetControl.Proofs.Settings.Override
import FleetControl.Proofs.Settings.Schema

/-!
# Reading settings leaf by leaf

A layer that has an admitted value for every setting of the schema is read without a fault, and what
is read depends on these values only: written into a layer, the settings have the same ones. The
statement is made for one field first and is put together along the records.
-/

namespace FleetControl

open FleetControl.Number

/-- The layer has an admitted value for each setting. -/
def Layer.Holds (layer : Layer) (schema : Schema) : Prop :=
  ∀ path kind, schema.kindAt? path = some kind →
    ∃ value, layer.scalarAt? path = some value ∧ kind.admits value = true

namespace Schema

variable {schema sub : Schema} {fields : List (String × Schema)} {layer other written : Layer}
  {name : String} {α : Type}

/-- The layers have the same value for each setting. -/
def Agree (schema : Schema) (layer other : Layer) : Prop :=
  ∀ path kind, schema.kindAt? path = some kind → layer.scalarAt? path = other.scalarAt? path

/-- Some setting is in the schema. -/
def Settles (schema : Schema) : Prop := ∃ path kind, schema.kindAt? path = some kind

/-- Layers that hold the same values are read alike, and what is read is written with them. -/
def ReadBy (schema : Schema) (read : Layer → Except LoadFault α) (write : α → Layer) : Prop :=
  ∀ layer, layer.Holds schema → ∃ a, schema.Agree (write a) layer ∧
    ∀ other, schema.Agree other layer → read other = .ok a

theorem Agree.symm (hagree : schema.Agree layer other) : schema.Agree other layer :=
  fun path kind hkind => (hagree path kind hkind).symm

theorem Agree.trans (hagree : schema.Agree written layer) (hother : schema.Agree layer other) :
    schema.Agree written other :=
  fun path kind hkind => (hagree path kind hkind).trans (hother path kind hkind)

theorem Agree.holds (hagree : schema.Agree other layer) (hholds : layer.Holds schema) :
    other.Holds schema := fun path kind hkind => by
  rw [hagree path kind hkind]
  exact hholds path kind hkind

theorem kindAt?_of_find? (hfind : Keyed.find? fields name = some sub) (path : List String) :
    (record fields).kindAt? (name :: path) = sub.kindAt? path := by
  rw [kindAt?_cons, child, hfind, Option.getD_some]

theorem kindAt?_cons_self (path : List String) :
    (record ((name, sub) :: fields)).kindAt? (name :: path) = sub.kindAt? path :=
  kindAt?_of_find? (by rw [Keyed.find?, if_pos rfl]) path

theorem kindAt?_cons_of_ne {path : List String} {other : String} (hne : name ≠ other) :
    (record ((name, sub) :: fields)).kindAt? (other :: path) =
      (record fields).kindAt? (other :: path) := by
  simp [kindAt?_cons, child, Keyed.find?, hne]

theorem Agree.nil : (record []).Agree layer other := fun path kind hkind => by simp at hkind

/-- A record agrees with a layer field by field. -/
theorem Agree.cons {entry : Layer} (hentry : written.get? name = some entry)
    (hfield : ∀ path kind, sub.kindAt? path = some kind →
      entry.scalarAt? path = layer.scalarAt? (name :: path))
    (hrest : (record fields).Agree written layer) :
    (record ((name, sub) :: fields)).Agree written layer := by
  intro path kind hkind
  cases path with
  | nil => simp at hkind
  | cons key path =>
      by_cases hkey : name = key
      · subst hkey
        rw [kindAt?_cons_self] at hkind
        rw [Layer.scalarAt?_cons, hentry]
        exact hfield path kind hkind
      · rw [kindAt?_cons_of_ne hkey] at hkind
        exact hrest (key :: path) kind hkind

end Schema

namespace Layer

variable {schema sub : Schema} {fields : List (String × Schema)} {layer other : Layer}
  {name : String} {α : Type} {read : Layer → Except LoadFault α} {write : α → Layer}

theorem Holds.nil : layer.Holds (.record []) := fun path kind hkind => by simp at hkind

/-- A record holds its settings field by field. -/
theorem Holds.cons {entry : Layer} (hentry : layer.get? name = some entry)
    (hfield : entry.Holds sub) (hrest : layer.Holds (.record fields)) :
    layer.Holds (.record ((name, sub) :: fields)) := by
  intro path kind hkind
  cases path with
  | nil => simp at hkind
  | cons key path =>
      by_cases hkey : name = key
      · subst hkey
        rw [Schema.kindAt?_cons_self] at hkind
        rw [scalarAt?_cons, hentry]
        exact hfield path kind hkind
      · rw [Schema.kindAt?_cons_of_ne hkey] at hkind
        exact hrest (key :: path) kind hkind

/-- What holds the settings of a record has each of its fields that has settings. -/
theorem Holds.exists_get? (hholds : layer.Holds (.record fields))
    (hfind : Keyed.find? fields name = some sub) (hsettles : sub.Settles) :
    ∃ entry, layer.get? name = some entry ∧ entry.Holds sub := by
  have hpath : ∀ path kind, sub.kindAt? path = some kind →
      ∃ value, (layer.get? name).bind (·.scalarAt? path) = some value ∧
        kind.admits value = true := fun path kind hkind =>
    hholds (name :: path) kind ((Schema.kindAt?_of_find? hfind path).trans hkind)
  obtain ⟨path, kind, hkind⟩ := hsettles
  obtain ⟨value, hvalue, -⟩ := hpath path kind hkind
  obtain ⟨entry, hentry, -⟩ := Option.bind_eq_some_iff.mp hvalue
  refine ⟨entry, hentry, fun path kind hkind => ?_⟩
  simpa [hentry] using hpath path kind hkind

/-- A field is read as its record is: from the values alone. Its default does not count. -/
theorem Holds.field (hholds : layer.Holds (.record fields)) (name : String)
    (hread : sub.ReadBy read write) (hfind : Keyed.find? fields name = some sub)
    (hsettles : sub.Settles) :
    ∃ a, (∀ path kind, sub.kindAt? path = some kind →
        (write a).scalarAt? path = layer.scalarAt? (name :: path)) ∧
      ∀ other, (Schema.record fields).Agree other layer → ∀ default,
        Field.read ⟨name, other.get? name⟩ default read = .ok a := by
  obtain ⟨entry, hentry, hsub⟩ := hholds.exists_get? hfind hsettles
  obtain ⟨a, hagree, hothers⟩ := hread entry hsub
  refine ⟨a, fun path kind hkind => ?_, fun other hother default => ?_⟩
  · rw [hagree path kind hkind, scalarAt?_cons, hentry, Option.bind_some]
  · obtain ⟨there, hthere, -⟩ := (hother.holds hholds).exists_get? hfind hsettles
    rw [hthere]
    refine read_of_ok (hothers there fun path kind hkind => ?_) name default
    have hsame := hother (name :: path) kind ((Schema.kindAt?_of_find? hfind path).trans hkind)
    rwa [scalarAt?_cons, scalarAt?_cons, hthere, hentry] at hsame

/-- What holds the settings of a record is a table. -/
theorem Holds.fields_eq (hholds : layer.Holds (.record fields)) (name : String)
    (hfind : Keyed.find? fields name = some sub) (hsettles : sub.Settles) (recordName : String)
    (names : List String) :
    layer.fields recordName names = .ok (names.map fun name => ⟨name, layer.get? name⟩) := by
  obtain ⟨entry, hentry, -⟩ := hholds.exists_get? hfind hsettles
  cases layer with
  | table => rfl
  | leaf | list => simp [get?, entries] at hentry

/-- One setting is read from its value. -/
theorem readBy_setting {kind : SettingKind}
    (hvalue : ∀ value, kind.admits value = true →
      ∃ a, write a = .leaf none value ∧ ∀ origin, read (.leaf origin value) = .ok a) :
    (Schema.setting kind).ReadBy read write := by
  intro layer hholds
  obtain ⟨value, hleaf, hadmits⟩ := hholds [] kind rfl
  obtain ⟨a, hwrite, hread⟩ := hvalue value hadmits
  refine ⟨a, fun path own hkind => ?_, fun other hother => ?_⟩
  · obtain rfl := Schema.eq_nil_of_kindAt?_setting hkind
    rw [hwrite, hleaf]
    rfl
  · obtain ⟨origin, rfl⟩ := eq_leaf_of_scalarAt? ((hother [] kind rfl).trans hleaf)
    exact hread origin

theorem exists_nat_of_admits {bits : Nat} {value : Scalar}
    (hadmits : (SettingKind.word bits).admits value = true) :
    ∃ n : Nat, value = .int n ∧ n < wordCount bits ∧ n ≤ 9223372036854775807 := by
  cases value with
  | int n =>
      simp only [SettingKind.admits, fitsSigned, Bool.and_eq_true, decide_eq_true_eq] at hadmits
      have hbound : signedBound = 9223372036854775808 := rfl
      exact ⟨n.toNat, by rw [Int.toNat_of_nonneg hadmits.1.1], by omega, by omega⟩
  | nothing | bool | float | text => simp [SettingKind.admits] at hadmits

theorem readBy_word64 :
    (Schema.setting (.word 64)).ReadBy word64 fun n => number n.toNat :=
  readBy_setting fun value hadmits => by
    obtain ⟨n, rfl, hn, -⟩ := exists_nat_of_admits hadmits
    have hword : (UInt64.ofNat n).toNat = n := UInt64.toNat_ofNat_of_lt' hn
    exact ⟨UInt64.ofNat n, by rw [hword]; rfl, fun origin => rfl⟩

theorem readBy_word32 :
    (Schema.setting (.word 32)).ReadBy word32 fun n => number n.toNat :=
  readBy_setting fun value hadmits => by
    obtain ⟨n, rfl, hn, -⟩ := exists_nat_of_admits hadmits
    have hword : (UInt32.ofNat n).toNat = n := UInt32.toNat_ofNat_of_lt' hn
    refine ⟨UInt32.ofNat n, by rw [hword]; rfl, fun origin => ?_⟩
    have hread : shortWord 32 (.leaf origin (.int n)) = .ok n := shortWord_number hn
    rw [word32, hread]
    rfl

theorem readBy_word16 :
    (Schema.setting (.word 16)).ReadBy word16 fun n => number n.toNat :=
  readBy_setting fun value hadmits => by
    obtain ⟨n, rfl, hn, -⟩ := exists_nat_of_admits hadmits
    have hword : (UInt16.ofNat n).toNat = n := UInt16.toNat_ofNat_of_lt' hn
    refine ⟨UInt16.ofNat n, by rw [hword]; rfl, fun origin => ?_⟩
    have hread : shortWord 16 (.leaf origin (.int n)) = .ok n := shortWord_number hn
    rw [word16, hread]
    rfl

theorem readBy_text : (Schema.setting .text).ReadBy plainText fun s => .leaf none (.text s) :=
  readBy_setting fun value hadmits => by
    cases value with
    | text s => exact ⟨s, rfl, fun origin => rfl⟩
    | nothing | bool | int | float => simp [SettingKind.admits] at hadmits

theorem readBy_truth : (Schema.setting .truth).ReadBy truth fun b => .leaf none (.bool b) :=
  readBy_setting fun value hadmits => by
    cases value with
    | bool b => exact ⟨b, rfl, fun origin => rfl⟩
    | nothing | text | int | float => simp [SettingKind.admits] at hadmits

theorem holds_leaf {kind : SettingKind} {value : Scalar} (hadmits : kind.admits value = true) :
    (leaf none value).Holds (.setting kind) := by
  intro path own hkind
  obtain rfl := Schema.eq_nil_of_kindAt?_setting hkind
  exact ⟨value, rfl, Option.some.inj hkind ▸ hadmits⟩

theorem holds_number {bits n : Nat} (hn : n < wordCount bits) (hmax : n ≤ 9223372036854775807) :
    (number n).Holds (.setting (.word bits)) := by
  have hbound : signedBound = 9223372036854775808 := rfl
  refine holds_leaf ?_
  simp only [SettingKind.admits, fitsSigned, Bool.and_eq_true, decide_eq_true_eq]
  omega

theorem holds_text {s : String} : (leaf none (.text s)).Holds (.setting .text) := holds_leaf rfl

theorem holds_truth {b : Bool} : (leaf none (.bool b)).Holds (.setting .truth) := holds_leaf rfl

theorem settles_setting (kind : SettingKind) : (Schema.setting kind).Settles := ⟨[], kind, rfl⟩

end Layer

open Layer

/-! ### The sections -/

/-- The settings of key material. -/
def TlsInfo.schema : Schema :=
  .record [("cert_file", .setting .text), ("key_file", .setting .text),
    ("trusted_ca_file", .setting .text), ("client_cert_auth", .setting .truth)]

theorem TlsInfo.readBy : schema.ReadBy ofLayer fun info => .ofValue none info.toValue := by
  intro layer hholds
  obtain ⟨cert, hcert, readCert⟩ := hholds.field "cert_file" readBy_text rfl (settles_setting _)
  obtain ⟨key, hkey, readKey⟩ := hholds.field "key_file" readBy_text rfl (settles_setting _)
  obtain ⟨ca, hca, readCa⟩ := hholds.field "trusted_ca_file" readBy_text rfl (settles_setting _)
  obtain ⟨auth, hauth, readAuth⟩ :=
    hholds.field "client_cert_auth" readBy_truth rfl (settles_setting _)
  refine ⟨⟨cert, key, ca, auth⟩,
    .cons rfl hcert (.cons rfl hkey (.cons rfl hca (.cons rfl hauth .nil))), fun other hother => ?_⟩
  have hfields := (hother.holds hholds).fields_eq "cert_file" rfl (settles_setting _)
  simp only [ofLayer, hfields, fieldNames, List.map_cons, List.map_nil, readCert _ hother,
    readKey _ hother, readCa _ hother, readAuth _ hother, bind, Except.bind, pure, Except.pure]

/-- The settings of one channel. -/
def TlsSelection.schema : Schema :=
  .record [("auto_tls", .setting .truth), ("manual", TlsInfo.schema)]

theorem TlsSelection.readBy :
    schema.ReadBy ofLayer fun selection => .ofValue none selection.toValue := by
  intro layer hholds
  obtain ⟨auto, hauto, readAuto⟩ := hholds.field "auto_tls" readBy_truth rfl (settles_setting _)
  obtain ⟨manual, hmanual, readManual⟩ :=
    hholds.field "manual" TlsInfo.readBy rfl ⟨["cert_file"], _, rfl⟩
  refine ⟨⟨auto, manual⟩, .cons rfl hauto (.cons rfl hmanual .nil), fun other hother => ?_⟩
  have hfields := (hother.holds hholds).fields_eq "auto_tls" rfl (settles_setting _)
  simp only [ofLayer, hfields, List.map_cons, List.map_nil, readAuto _ hother,
    readManual _ hother, bind, Except.bind, pure, Except.pure]

/-- The settings of the security section. -/
def TlsSection.schema : Schema :=
  .record [("client", TlsSelection.schema), ("peer", TlsSelection.schema)]

theorem TlsSection.readBy : schema.ReadBy ofLayer written := by
  intro layer hholds
  obtain ⟨client, hclient, readClient⟩ :=
    hholds.field "client" TlsSelection.readBy rfl ⟨["auto_tls"], _, rfl⟩
  obtain ⟨peer, hpeer, readPeer⟩ :=
    hholds.field "peer" TlsSelection.readBy rfl ⟨["auto_tls"], _, rfl⟩
  refine ⟨⟨client, peer⟩, .cons rfl hclient (.cons rfl hpeer .nil), fun other hother => ?_⟩
  have hfields := (hother.holds hholds).fields_eq "client" rfl ⟨["auto_tls"], _, rfl⟩
  simp only [ofLayer, hfields, List.map_cons, List.map_nil, readClient _ hother,
    readPeer _ hother, bind, Except.bind, pure, Except.pure]

/-- The settings of the fleet section. -/
def FleetSection.schema : Schema :=
  .record [("size", .setting (.word 64)), ("root_dir", .setting .text),
    ("root_port", .setting (.word 16)), ("host", .setting .text),
    ("stop_start_interval_in_ms", .setting (.word 64)), ("engine_binary", .setting .text),
    ("log_dir", .setting .text)]

theorem FleetSection.readBy : schema.ReadBy ofLayer written := by
  intro layer hholds
  obtain ⟨size, hsize, readSize⟩ := hholds.field "size" readBy_word64 rfl (settles_setting _)
  obtain ⟨rootDir, hrootDir, readRootDir⟩ :=
    hholds.field "root_dir" readBy_text rfl (settles_setting _)
  obtain ⟨rootPort, hrootPort, readRootPort⟩ :=
    hholds.field "root_port" readBy_word16 rfl (settles_setting _)
  obtain ⟨host, hhost, readHost⟩ := hholds.field "host" readBy_text rfl (settles_setting _)
  obtain ⟨interval, hinterval, readInterval⟩ :=
    hholds.field "stop_start_interval_in_ms" readBy_word64 rfl (settles_setting _)
  obtain ⟨binary, hbinary, readBinary⟩ :=
    hholds.field "engine_binary" readBy_text rfl (settles_setting _)
  obtain ⟨logDir, hlogDir, readLogDir⟩ := hholds.field "log_dir" readBy_text rfl (settles_setting _)
  refine ⟨⟨size, rootDir, rootPort, host, interval, binary, logDir⟩,
    .cons rfl hsize (.cons rfl hrootDir (.cons rfl hrootPort (.cons rfl hhost
      (.cons rfl hinterval (.cons rfl hbinary (.cons rfl hlogDir .nil)))))), fun other hother => ?_⟩
  have hfields := (hother.holds hholds).fields_eq "size" rfl (settles_setting _)
  simp only [ofLayer, hfields, fieldNames, List.map_cons, List.map_nil, readSize _ hother,
    readRootDir _ hother, readRootPort _ hother, readHost _ hother, readInterval _ hother,
    readBinary _ hother, readLogDir _ hother, bind, Except.bind, pure, Except.pure]

/-- The settings of the monitor section. -/
def MonitorSection.schema : Schema :=
  .record [("tick_interval_in_ms", .setting (.word 64)),
    ("probe_timeout_in_ms", .setting (.word 64)), ("dial_timeout_in_ms", .setting (.word 64)),
    ("leader_discovery_backoff_in_ms", .setting (.word 64)),
    ("leader_discovery_max_attempts", .setting (.word 32)),
    ("readiness_poll_interval_in_ms", .setting (.word 64))]

theorem MonitorSection.readBy : schema.ReadBy ofLayer written := by
  intro layer hholds
  obtain ⟨tick, htick, readTick⟩ :=
    hholds.field "tick_interval_in_ms" readBy_word64 rfl (settles_setting _)
  obtain ⟨probe, hprobe, readProbe⟩ :=
    hholds.field "probe_timeout_in_ms" readBy_word64 rfl (settles_setting _)
  obtain ⟨dial, hdial, readDial⟩ :=
    hholds.field "dial_timeout_in_ms" readBy_word64 rfl (settles_setting _)
  obtain ⟨backoff, hbackoff, readBackoff⟩ :=
    hholds.field "leader_discovery_backoff_in_ms" readBy_word64 rfl (settles_setting _)
  obtain ⟨attempts, hattempts, readAttempts⟩ :=
    hholds.field "leader_discovery_max_attempts" readBy_word32 rfl (settles_setting _)
  obtain ⟨poll, hpoll, readPoll⟩ :=
    hholds.field "readiness_poll_interval_in_ms" readBy_word64 rfl (settles_setting _)
  refine ⟨⟨tick, probe, dial, backoff, attempts, poll⟩,
    .cons rfl htick (.cons rfl hprobe (.cons rfl hdial (.cons rfl hbackoff
      (.cons rfl hattempts (.cons rfl hpoll .nil))))), fun other hother => ?_⟩
  have hfields := (hother.holds hholds).fields_eq "tick_interval_in_ms" rfl (settles_setting _)
  simp only [ofLayer, hfields, fieldNames, List.map_cons, List.map_nil, readTick _ hother,
    readProbe _ hother, readDial _ hother, readBackoff _ hother, readAttempts _ hother,
    readPoll _ hother, bind, Except.bind, pure, Except.pure]

/-- The settings of the exporter section. -/
def MonitoringSection.schema : Schema :=
  .record [("prometheus_enabled", .setting .truth), ("prometheus_port", .setting (.word 16))]

theorem MonitoringSection.readBy : schema.ReadBy ofLayer written := by
  intro layer hholds
  obtain ⟨enabled, henabled, readEnabled⟩ :=
    hholds.field "prometheus_enabled" readBy_truth rfl (settles_setting _)
  obtain ⟨port, hport, readPort⟩ :=
    hholds.field "prometheus_port" readBy_word16 rfl (settles_setting _)
  refine ⟨⟨enabled, port⟩, .cons rfl henabled (.cons rfl hport .nil), fun other hother => ?_⟩
  have hfields := (hother.holds hholds).fields_eq "prometheus_enabled" rfl (settles_setting _)
  simp only [ofLayer, hfields, List.map_cons, List.map_nil, readEnabled _ hother,
    readPort _ hother, bind, Except.bind, pure, Except.pure]

namespace FleetSettings

/-- All settings. -/
def schema : Schema :=
  .record [("fleet", FleetSection.schema), ("tls", TlsSection.schema),
    ("monitor", MonitorSection.schema), ("monitoring", MonitoringSection.schema)]

theorem readBy : schema.ReadBy ofLayer written := by
  intro layer hholds
  obtain ⟨fleet, hfleet, readFleet⟩ :=
    hholds.field "fleet" FleetSection.readBy rfl ⟨["size"], _, rfl⟩
  obtain ⟨tls, htls, readTls⟩ :=
    hholds.field "tls" TlsSection.readBy rfl ⟨["client", "auto_tls"], _, rfl⟩
  obtain ⟨monitor, hmonitor, readMonitor⟩ :=
    hholds.field "monitor" MonitorSection.readBy rfl ⟨["tick_interval_in_ms"], _, rfl⟩
  obtain ⟨monitoring, hmonitoring, readMonitoring⟩ :=
    hholds.field "monitoring" MonitoringSection.readBy rfl ⟨["prometheus_port"], _, rfl⟩
  refine ⟨⟨fleet, tls, monitor, monitoring⟩,
    .cons rfl hfleet (.cons rfl htls (.cons rfl hmonitor (.cons rfl hmonitoring .nil))),
    fun other hother => ?_⟩
  have hfields := (hother.holds hholds).fields_eq "fleet" rfl ⟨["size"], _, rfl⟩
  simp only [ofLayer, hfields, List.map_cons, List.map_nil, readFleet _ hother,
    readTls _ hother, readMonitor _ hother, readMonitoring _ hother, bind, Except.bind, pure,
    Except.pure]

/-- The value of the setting at a path. -/
def leaf? (settings : FleetSettings) (path : List String) : Option Scalar :=
  settings.written.scalarAt? path

/-- Settings can be written into a layer if and only if none of their numbers is too great. -/
theorem holds_written_iff (settings : FleetSettings) :
    settings.written.Holds schema ↔ settings.excess? = none := by
  rw [excess?, List.find?_eq_none]
  simp only [numbers, List.mem_cons, List.not_mem_nil, or_false, forall_eq_or_imp, forall_eq,
    decide_eq_true_eq, Nat.not_lt]
  constructor
  · -- Every number is the value of a setting, and no setting admits a number that is too great.
    intro hholds
    have hmax : ∀ path bits (n : Nat), schema.kindAt? path = some (.word bits) →
        settings.leaf? path = some (.int n) → n ≤ 9223372036854775807 := by
      intro path bits n hkind hleaf
      obtain ⟨value, hvalue, hadmits⟩ := hholds path _ hkind
      obtain ⟨m, rfl, -, hm⟩ := exists_nat_of_admits hadmits
      have hsame := hleaf.symm.trans hvalue
      simp only [Option.some.injEq, Scalar.int.injEq, Int.natCast_inj] at hsame
      exact hsame ▸ hm
    exact ⟨hmax ["fleet", "size"] _ _ rfl rfl, hmax ["fleet", "root_port"] _ _ rfl rfl,
      hmax ["fleet", "stop_start_interval_in_ms"] _ _ rfl rfl,
      hmax ["monitor", "tick_interval_in_ms"] _ _ rfl rfl,
      hmax ["monitor", "probe_timeout_in_ms"] _ _ rfl rfl,
      hmax ["monitor", "dial_timeout_in_ms"] _ _ rfl rfl,
      hmax ["monitor", "leader_discovery_backoff_in_ms"] _ _ rfl rfl,
      hmax ["monitor", "leader_discovery_max_attempts"] _ _ rfl rfl,
      hmax ["monitor", "readiness_poll_interval_in_ms"] _ _ rfl rfl,
      hmax ["monitoring", "prometheus_port"] _ _ rfl rfl⟩
  · rintro ⟨hsize, hport, hinterval, htick, hprobe, hdial, hbackoff, hattempts, hpoll, hexporter⟩
    have htls : ∀ selection : TlsSelection,
        (Layer.ofValue none selection.toValue).Holds TlsSelection.schema := fun selection =>
      .cons rfl holds_truth (.cons rfl (.cons rfl holds_text (.cons rfl holds_text
        (.cons rfl holds_text (.cons rfl holds_truth .nil)))) .nil)
    refine .cons rfl ?fleet (.cons rfl (.cons rfl (htls _) (.cons rfl (htls _) .nil))
      (.cons rfl ?monitor (.cons rfl ?monitoring .nil)))
    case fleet =>
      exact .cons rfl (holds_number (UInt64.toNat_lt _) hsize) (.cons rfl holds_text
        (.cons rfl (holds_number (UInt16.toNat_lt _) hport) (.cons rfl holds_text
          (.cons rfl (holds_number (UInt64.toNat_lt _) hinterval) (.cons rfl holds_text
            (.cons rfl holds_text .nil))))))
    case monitor =>
      exact .cons rfl (holds_number (UInt64.toNat_lt _) htick)
        (.cons rfl (holds_number (UInt64.toNat_lt _) hprobe)
          (.cons rfl (holds_number (UInt64.toNat_lt _) hdial)
            (.cons rfl (holds_number (UInt64.toNat_lt _) hbackoff)
              (.cons rfl (holds_number (UInt32.toNat_lt _) hattempts)
                (.cons rfl (holds_number (UInt64.toNat_lt _) hpoll) .nil)))))
    case monitoring =>
      exact .cons rfl holds_truth (.cons rfl (holds_number (UInt16.toNat_lt _) hexporter) .nil)

end FleetSettings

end FleetControl
