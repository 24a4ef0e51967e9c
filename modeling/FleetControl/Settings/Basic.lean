import FleetControl.Error
import FleetControl.Text.Blank

/-!
# Settings

What the operator chooses: the shape of the fleet, the security of its channels, the timing of the
status monitor and the metrics exporter. Every field has a default. Numbers are machine words of
the size that each field has, so settings that are read always fit.

`validate` accepts settings that a fleet can be started with. Its arithmetic is that of the words,
so a size beyond any port range overflows instead of being refused.
-/

namespace FleetControl

open FleetControl.Number FleetControl.Text

/-- The shape of the fleet. -/
structure FleetSection where
  /-- The number of members. -/
  size : UInt64 := 3
  /-- The data directory, wiped at start and deleted at shutdown. -/
  rootDir : String := "/tmp/d-engine-fleet"
  /-- The client port of the first member; its peer port is the next one. -/
  rootPort : UInt16 := 2379
  /-- The host in every member's URLs. -/
  host : String := "localhost"
  /-- The least time between two structural transitions of one member. -/
  stopStartIntervalMs : UInt64 := 2000
  engineBinary : String := "etcd"
  /-- The directory of the controller's own log file. -/
  logDir : String := "./logs"
deriving DecidableEq, Repr, Inhabited

/-- The security of the two channels. -/
structure TlsSection where
  client : TlsSelection := {}
  peer : TlsSelection := {}
deriving DecidableEq, Repr, Inhabited

/-- The timing of the monitor, of probes and of the bootstrap. -/
structure MonitorSection where
  tickIntervalMs : UInt64 := 1000
  /-- The deadline of one call to a member. -/
  probeTimeoutMs : UInt64 := 3000
  dialTimeoutMs : UInt64 := 3000
  /-- The pause between two attempts to find a leader. -/
  leaderDiscoveryBackoffMs : UInt64 := 1000
  /-- How often a leader is looked for; zero looks without end. -/
  leaderDiscoveryMaxAttempts : UInt32 := 0
  readinessPollIntervalMs : UInt64 := 100
deriving DecidableEq, Repr, Inhabited

/-- The metrics exporter. -/
structure MonitoringSection where
  prometheusEnabled : Bool := false
  prometheusPort : UInt16 := 9090
deriving DecidableEq, Repr, Inhabited

/-- All settings. -/
structure FleetSettings where
  fleet : FleetSection := {}
  tls : TlsSection := {}
  monitor : MonitorSection := {}
  monitoring : MonitoringSection := {}
deriving DecidableEq, Repr, Inhabited

/-- The least time between two transitions of a member, whatever the settings say, in
milliseconds. -/
def minStopStartIntervalMs : Nat := 2000

/-- How far apart the client ports of consecutive members are. -/
def portStride : Nat := 2

namespace FleetSection

/-- The cooldown in force: the chosen one, raised to the least one. -/
def stopStartInterval (fleet : FleetSection) : Nanos :=
  Nanos.ofMillis (max fleet.stopStartIntervalMs.toNat minStopStartIntervalMs)

/-- The client port of a slot, in the arithmetic of port numbers. Only the low sixteen bits of the
slot's index count. -/
def clientPort (fleet : FleetSection) (index : Nat) : Except Overflow Nat := do
  let offset ← multiplyWithin 16 (index % wordCount 16) portStride
  addWithin 16 fleet.rootPort.toNat offset

/-- The peer port of the last member, in the arithmetic of 64-bit words. -/
def lastPeerPort (fleet : FleetSection) : Except Overflow Nat := do
  let span ← multiplyWithin 64 fleet.size.toNat portStride
  let past ← addWithin 64 fleet.rootPort.toNat span
  return past - 1

/-- Refuses a configuration. -/
def refuse {α : Type} (reason : String) : Except Stop α := .error (.error (.invalidConfig reason))

/-- Accepts a fleet of at least one member whose ports all exist and that has a directory and a
host. -/
def validate (fleet : FleetSection) : Except Stop Unit :=
  if fleet.size = 0 then refuse "fleet size must be at least 1"
  else if fleet.rootPort = 0 then refuse "root_port must be non-zero"
  else
    match fleet.lastPeerPort with
    | .error overflow => .error (.ofOverflow overflow)
    | .ok last =>
        if 65535 < last then
          refuse (decimal fleet.size.toNat ++ " members starting at port " ++
            decimal fleet.rootPort.toNat ++ " exceed the port range")
        else if fleet.rootDir.isEmpty then refuse "root_dir path cannot be empty"
        else if isBlankText fleet.host then refuse "host cannot be empty"
        else .ok ()

end FleetSection

namespace TlsSection

/-- The resolved security of a channel, or the failure that its selection is ambiguous. -/
def modeOf (selection : TlsSelection) (channel : Channel) : Except Error TlsMode :=
  match selection.mode? with
  | some mode => .ok mode
  | none => .error (.ambiguousTls channel)

/-- The resolved security of the client channel. -/
def clientMode (tls : TlsSection) : Except Error TlsMode := modeOf tls.client .client

/-- The resolved security of the peer channel. -/
def peerMode (tls : TlsSection) : Except Error TlsMode := modeOf tls.peer .peer

/-- Accepts selections that are not ambiguous; the client channel is looked at first. -/
def validate (tls : TlsSection) : Except Stop Unit :=
  match tls.clientMode with
  | .error e => .error (.error e)
  | .ok _ =>
      match tls.peerMode with
      | .error e => .error (.error e)
      | .ok _ => .ok ()

end TlsSection

namespace MonitorSection

/-- The time between two monitor rounds. -/
def tickInterval (monitor : MonitorSection) : Nanos := Nanos.ofMillis monitor.tickIntervalMs.toNat

/-- The deadline of one call. -/
def probeTimeout (monitor : MonitorSection) : Nanos := Nanos.ofMillis monitor.probeTimeoutMs.toNat

/-- The deadline of one connection attempt. -/
def dialTimeout (monitor : MonitorSection) : Nanos := Nanos.ofMillis monitor.dialTimeoutMs.toNat

/-- The pause before the first and between all attempts to find a leader. -/
def leaderDiscoveryBackoff (monitor : MonitorSection) : Nanos :=
  Nanos.ofMillis monitor.leaderDiscoveryBackoffMs.toNat

/-- The pause between two readiness checks. -/
def readinessPollInterval (monitor : MonitorSection) : Nanos :=
  Nanos.ofMillis monitor.readinessPollIntervalMs.toNat

/-- Accepts timings none of which is zero, the backoff apart. -/
def validate (monitor : MonitorSection) : Except Stop Unit :=
  if monitor.tickIntervalMs = 0 then FleetSection.refuse "tick_interval_in_ms must be > 0"
  else if monitor.probeTimeoutMs = 0 ∨ monitor.dialTimeoutMs = 0 then
    FleetSection.refuse "probe_timeout_in_ms and dial_timeout_in_ms must be > 0"
  else if monitor.readinessPollIntervalMs = 0 then
    FleetSection.refuse "readiness_poll_interval_in_ms must be > 0"
  else .ok ()

end MonitorSection

/-- Accepts an exporter that is off, or that listens on an unprivileged port. -/
def MonitoringSection.validate (monitoring : MonitoringSection) : Except Stop Unit :=
  if monitoring.prometheusEnabled then
    if monitoring.prometheusPort = 0 then
      FleetSection.refuse "prometheus_port cannot be 0 when enabled"
    else if monitoring.prometheusPort < 1024 then
      FleetSection.refuse ("prometheus_port " ++ decimal monitoring.prometheusPort.toNat ++
        " is a privileged port (requires root)")
    else .ok ()
  else .ok ()

/-- Validates the sections in declaration order and reports the first that is refused. -/
def FleetSettings.validate (settings : FleetSettings) : Except Stop Unit := do
  settings.fleet.validate
  settings.tls.validate
  settings.monitor.validate
  settings.monitoring.validate

/-- The text that describes settings in the log: the shape and the timing. -/
def FleetSettings.describe (settings : FleetSettings) : String :=
  let fleet := settings.fleet
  let monitor := settings.monitor
  "FleetSettings \x7b fleet: FleetConfig \x7b size: " ++ decimal fleet.size.toNat ++
    ", root_dir: " ++ quoted fleet.rootDir ++
    ", root_port: " ++ decimal fleet.rootPort.toNat ++
    ", host: " ++ quoted fleet.host ++
    ", stop_start_interval_in_ms: " ++ decimal fleet.stopStartIntervalMs.toNat ++
    ", engine_binary: " ++ quoted fleet.engineBinary ++
    ", log_dir: " ++ quoted fleet.logDir ++
    " \x7d, monitor: MonitorConfig \x7b tick_interval_in_ms: " ++
    decimal monitor.tickIntervalMs.toNat ++
    ", probe_timeout_in_ms: " ++ decimal monitor.probeTimeoutMs.toNat ++
    ", dial_timeout_in_ms: " ++ decimal monitor.dialTimeoutMs.toNat ++
    ", leader_discovery_backoff_in_ms: " ++ decimal monitor.leaderDiscoveryBackoffMs.toNat ++
    ", leader_discovery_max_attempts: " ++ decimal monitor.leaderDiscoveryMaxAttempts.toNat ++
    ", readiness_poll_interval_in_ms: " ++ decimal monitor.readinessPollIntervalMs.toNat ++
    " \x7d \x7d"

end FleetControl
