import FleetControl.Proofs.Files.Removal
import FleetControl.Settings.Load
import Mathlib.Data.List.Basic

/-!
# An override that names nothing

To lay a file over settings, the settings are first written into a layer, and all settings are read
back from the layers in the end. What is read is what was written, so a file without entries changes
nothing. But a layer holds no integer of 2^63 or more, while many settings do: those cannot be
overridden at all.
-/

namespace FleetControl

open FleetControl.Number

namespace Layer

/-! ### Fields of a layer -/

/-- A number that no source set. -/
def number (n : Nat) : Layer := .leaf none (.int n)

theorem word_number (n : Nat) : (number n).word = .ok n := by
  simp [word, number]

theorem shortWord_number {bits n : Nat} (hn : n < wordCount bits) :
    shortWord bits (number n) = .ok n := by
  simp only [shortWord, word_number, bind, Except.bind, if_pos hn, pure, Except.pure]

theorem read_of_ok {α : Type} {read : Layer → Except LoadFault α} {layer : Layer} {a : α}
    (hread : read layer = .ok a) (segment : String) (default : α) :
    Field.read ⟨segment, some layer⟩ default read = .ok a := by
  simp only [Field.read, hread]
  rfl

end Layer

open Layer

/-! ### Sections that are written into a layer -/

/-- The fleet section in a layer. -/
def FleetSection.written (fleet : FleetSection) : Layer :=
  .table none [
    ("size", number fleet.size.toNat),
    ("root_dir", .leaf none (.text fleet.rootDir)),
    ("root_port", number fleet.rootPort.toNat),
    ("host", .leaf none (.text fleet.host)),
    ("stop_start_interval_in_ms", number fleet.stopStartIntervalMs.toNat),
    ("engine_binary", .leaf none (.text fleet.engineBinary)),
    ("log_dir", .leaf none (.text fleet.logDir))]

/-- The security section in a layer. -/
def TlsSection.written (tls : TlsSection) : Layer :=
  .table none [
    ("client", .ofValue none tls.client.toValue),
    ("peer", .ofValue none tls.peer.toValue)]

/-- The monitor section in a layer. -/
def MonitorSection.written (monitor : MonitorSection) : Layer :=
  .table none [
    ("tick_interval_in_ms", number monitor.tickIntervalMs.toNat),
    ("probe_timeout_in_ms", number monitor.probeTimeoutMs.toNat),
    ("dial_timeout_in_ms", number monitor.dialTimeoutMs.toNat),
    ("leader_discovery_backoff_in_ms", number monitor.leaderDiscoveryBackoffMs.toNat),
    ("leader_discovery_max_attempts", number monitor.leaderDiscoveryMaxAttempts.toNat),
    ("readiness_poll_interval_in_ms", number monitor.readinessPollIntervalMs.toNat)]

/-- The exporter section in a layer. -/
def MonitoringSection.written (monitoring : MonitoringSection) : Layer :=
  .table none [
    ("prometheus_enabled", .leaf none (.bool monitoring.prometheusEnabled)),
    ("prometheus_port", number monitoring.prometheusPort.toNat)]

namespace FleetSettings

/-- Settings in a layer. -/
def written (settings : FleetSettings) : Layer :=
  .table none [
    ("fleet", settings.fleet.written),
    ("tls", settings.tls.written),
    ("monitor", settings.monitor.written),
    ("monitoring", settings.monitoring.written)]

/-- The numbers among the settings. -/
def numbers (settings : FleetSettings) : List Nat :=
  [settings.fleet.size.toNat, settings.fleet.rootPort.toNat,
    settings.fleet.stopStartIntervalMs.toNat, settings.monitor.tickIntervalMs.toNat,
    settings.monitor.probeTimeoutMs.toNat, settings.monitor.dialTimeoutMs.toNat,
    settings.monitor.leaderDiscoveryBackoffMs.toNat,
    settings.monitor.leaderDiscoveryMaxAttempts.toNat,
    settings.monitor.readinessPollIntervalMs.toNat, settings.monitoring.prometheusPort.toNat]

/-- The first number that is too great for a layer. -/
def excess? (settings : FleetSettings) : Option Nat :=
  settings.numbers.find? (9223372036854775807 < ·)

theorem exists_toValue_eq (settings : FleetSettings) :
    ∃ entries, settings.toValue = .table entries ∧
      Layer.table none (Layer.ofEntries none entries) = settings.written ∧
      integersOf entries = settings.numbers.map Int.ofNat := by
  refine ⟨_, rfl, rfl, ?_⟩
  simp [integersOf, numbers, Value.ofNat, TlsSelection.toValue, TlsInfo.toValue]

theorem toLayer_eq (settings : FleetSettings) :
    settings.toLayer = match settings.excess? with
      | none => .ok settings.written
      | some n => .error (.message ("value " ++ decimal n ++
          " is greater than the max 9223372036854775807")) := by
  obtain ⟨entries, hentries, hwritten, hintegers⟩ := settings.exists_toValue_eq
  have hgreat : (fun n : Nat => decide (maxInteger < (n : Int))) =
      fun n => decide (9223372036854775807 < n) := by
    funext n
    have hmax : maxInteger = 9223372036854775807 := by decide
    exact decide_eq_decide.mpr (by omega)
  have hfound : (integersOf entries).find? (maxInteger < ·) = settings.excess?.map Int.ofNat := by
    rw [hintegers, List.find?_map, excess?, ← hgreat]
    rfl
  simp only [toLayer, hentries, hfound, hwritten]
  cases settings.excess? with
  | none => rfl
  | some n =>
      have hshown : signedDecimal (Int.ofNat n) = decimal n := by simp [signedDecimal]
      have hmax : signedDecimal maxInteger = "9223372036854775807" := by decide
      simp only [Option.map_some, hshown, hmax, String.append_assoc]
      rfl

end FleetSettings

namespace FleetSettings

end FleetSettings

end FleetControl
