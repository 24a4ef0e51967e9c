import FleetControl.Settings.Basic

/-!
# Settings as plain data

Reading settings strictly from a tree of plain data and writing them back. Every section and every
field may be missing and then has its default; one that is present must have its exact type.
-/

namespace FleetControl

/-- Reads a 64-bit word. -/
def Value.word64? (v : Value) : Option UInt64 := (v.word? 64).map UInt64.ofNat

/-- Reads a 32-bit word. -/
def Value.word32? (v : Value) : Option UInt32 := (v.word? 32).map UInt32.ofNat

/-- Reads a 16-bit word. -/
def Value.word16? (v : Value) : Option UInt16 := (v.word? 16).map UInt16.ofNat

/-- Field names of the fleet section, in declaration order. -/
def FleetSection.fieldNames : List String :=
  ["size", "root_dir", "root_port", "host", "stop_start_interval_in_ms", "engine_binary", "log_dir"]

/-- Field names of the monitor section, in declaration order. -/
def MonitorSection.fieldNames : List String :=
  ["tick_interval_in_ms", "probe_timeout_in_ms", "dial_timeout_in_ms",
    "leader_discovery_backoff_in_ms", "leader_discovery_max_attempts",
    "readiness_poll_interval_in_ms"]

open Value

/-- Reads the fleet section. -/
def FleetSection.ofValue? (v : Value) : Option FleetSection := do
  let d : FleetSection := {}
  match ← v.record? fieldNames with
  | [size, rootDir, rootPort, host, interval, engineBinary, logDir] =>
      return {
        size := ← optional word64? d.size size
        rootDir := ← optional text? d.rootDir rootDir
        rootPort := ← optional word16? d.rootPort rootPort
        host := ← optional text? d.host host
        stopStartIntervalMs := ← optional word64? d.stopStartIntervalMs interval
        engineBinary := ← optional text? d.engineBinary engineBinary
        logDir := ← optional text? d.logDir logDir }
  | _ => none

/-- Reads the security section. -/
def TlsSection.ofValue? (v : Value) : Option TlsSection := do
  match ← v.record? ["client", "peer"] with
  | [client, peer] =>
      return {
        client := ← optional TlsSelection.ofValue? {} client
        peer := ← optional TlsSelection.ofValue? {} peer }
  | _ => none

/-- Reads the monitor section. -/
def MonitorSection.ofValue? (v : Value) : Option MonitorSection := do
  let d : MonitorSection := {}
  match ← v.record? fieldNames with
  | [tick, probe, dial, backoff, attempts, poll] =>
      return {
        tickIntervalMs := ← optional word64? d.tickIntervalMs tick
        probeTimeoutMs := ← optional word64? d.probeTimeoutMs probe
        dialTimeoutMs := ← optional word64? d.dialTimeoutMs dial
        leaderDiscoveryBackoffMs := ← optional word64? d.leaderDiscoveryBackoffMs backoff
        leaderDiscoveryMaxAttempts := ← optional word32? d.leaderDiscoveryMaxAttempts attempts
        readinessPollIntervalMs := ← optional word64? d.readinessPollIntervalMs poll }
  | _ => none

/-- Reads the exporter section. -/
def MonitoringSection.ofValue? (v : Value) : Option MonitoringSection := do
  let d : MonitoringSection := {}
  match ← v.record? ["prometheus_enabled", "prometheus_port"] with
  | [enabled, port] =>
      return {
        prometheusEnabled := ← optional bool? d.prometheusEnabled enabled
        prometheusPort := ← optional word16? d.prometheusPort port }
  | _ => none

/-- Reads settings. -/
def FleetSettings.ofValue? (v : Value) : Option FleetSettings := do
  match ← v.record? ["fleet", "tls", "monitor", "monitoring"] with
  | [fleet, tls, monitor, monitoring] =>
      return {
        fleet := ← optional FleetSection.ofValue? {} fleet
        tls := ← optional TlsSection.ofValue? {} tls
        monitor := ← optional MonitorSection.ofValue? {} monitor
        monitoring := ← optional MonitoringSection.ofValue? {} monitoring }
  | _ => none

/-- Settings as plain data. -/
def FleetSettings.toValue (settings : FleetSettings) : Value :=
  let fleet := settings.fleet
  let monitor := settings.monitor
  .table [
    ("fleet", .table [
      ("size", .ofNat fleet.size.toNat),
      ("root_dir", .text fleet.rootDir),
      ("root_port", .ofNat fleet.rootPort.toNat),
      ("host", .text fleet.host),
      ("stop_start_interval_in_ms", .ofNat fleet.stopStartIntervalMs.toNat),
      ("engine_binary", .text fleet.engineBinary),
      ("log_dir", .text fleet.logDir)]),
    ("tls", .table [
      ("client", settings.tls.client.toValue),
      ("peer", settings.tls.peer.toValue)]),
    ("monitor", .table [
      ("tick_interval_in_ms", .ofNat monitor.tickIntervalMs.toNat),
      ("probe_timeout_in_ms", .ofNat monitor.probeTimeoutMs.toNat),
      ("dial_timeout_in_ms", .ofNat monitor.dialTimeoutMs.toNat),
      ("leader_discovery_backoff_in_ms", .ofNat monitor.leaderDiscoveryBackoffMs.toNat),
      ("leader_discovery_max_attempts", .ofNat monitor.leaderDiscoveryMaxAttempts.toNat),
      ("readiness_poll_interval_in_ms", .ofNat monitor.readinessPollIntervalMs.toNat)]),
    ("monitoring", .table [
      ("prometheus_enabled", .bool settings.monitoring.prometheusEnabled),
      ("prometheus_port", .ofNat settings.monitoring.prometheusPort.toNat)])]

end FleetControl
