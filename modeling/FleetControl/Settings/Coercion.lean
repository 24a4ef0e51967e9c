import FleetControl.Error
import FleetControl.Settings.Data
import FleetControl.Settings.Layer

/-!
# Typed settings from layers

Reading settings from a tree of layers is generous: texts, truth values, integers and doubles stand
for each other where that makes sense. A value that cannot stand for what its field needs is reported
with the key of the field and the source that set it.
-/

namespace FleetControl

open FleetControl.Number FleetControl.Text

namespace Scalar

/-- The words for a scalar in messages. -/
def words : Scalar → String
  | .nothing => "unit value"
  | .bool b => "boolean `" ++ (if b then "true" else "false") ++ "`"
  | .int n => "integer `" ++ signedDecimal n ++ "`"
  | .float x =>
      let text := x.text
      let shown :=
        match x with
        | .finite .. => if '.' ∈ text.toList then text else text ++ ".0"
        | _ => text
      "floating point `" ++ shown ++ "`"
  | .text s => "string " ++ quoted s

end Scalar

namespace LoadFault

/-- The fault of a value that is a part of the value with the given key. -/
def within (fault : LoadFault) (segment : String) : LoadFault :=
  match fault with
  | .type found expected none origin => .type found expected (some segment) origin
  | .type found expected (some key) origin =>
      let joint := if key.toList.head? = some '[' then "" else "."
      .type found expected (some (segment ++ joint ++ key)) origin
  | other => other

end LoadFault

namespace Layer

/-- What a layer is called where a scalar was expected. -/
def words : Layer → String
  | .leaf _ scalar => scalar.words
  | .list .. => "sequence"
  | .table .. => "map"

/-- The fault of a layer that has the wrong form. -/
def mismatch {α : Type} (layer : Layer) (found expected : String) : Except LoadFault α :=
  .error (.type found expected none (layer.origin?.map Origin.text))

/-- The truth value that a word stands for. -/
def truthOf? (word : String) : Option Bool :=
  if word ∈ ["true", "on", "yes"] then some true
  else if word ∈ ["false", "off", "no"] then some false
  else none

/-- The greatest 64-bit word. -/
def maxWord : Nat := wordCount 64 - 1

/-- The 64-bit word that a text denotes in base ten. -/
def wordOfText? (s : String) : Option Nat :=
  let digits := match s.toList with | '+' :: rest => rest | chars => chars
  if digits = [] ∨ !digits.all Char.isDigit then none
  else
    let n := digits.foldl (fun n c => n * 10 + (c.toNat - '0'.toNat)) 0
    if n ≤ maxWord then some n else none

/-- Reads a 64-bit word. A double is rounded and clamped, a truth value counts as zero or one. -/
def word (layer : Layer) : Except LoadFault Nat :=
  match layer with
  | .leaf _ (.int n) =>
      if 0 ≤ n then .ok n.toNat
      else
        layer.mismatch ("64-bit integer `" ++ signedDecimal n ++ "`")
          "an unsigned 64 bit or less integer"
  | .leaf _ (.text s) =>
      match truthOf? (lower s) with
      | some b => .ok (if b then 1 else 0)
      | none =>
          match wordOfText? s with
          | some n => .ok n
          | none => layer.mismatch ("string " ++ quoted s) "an integer"
  | .leaf _ (.bool b) => .ok (if b then 1 else 0)
  | .leaf _ (.float x) => .ok (x.toNatClamped maxWord)
  | _ => layer.mismatch layer.words "an integer"

/-- Reads a word of fewer than 64 bits. The fault of one that is too large names no source. -/
def shortWord (bits : Nat) (layer : Layer) : Except LoadFault Nat := do
  let n ← layer.word
  if n < wordCount bits then return n
  else
    .error (.type ("64-bit unsigned integer `" ++ decimal n ++ "`")
      ("an unsigned " ++ decimal bits ++ " bit integer") none none)

/-- Reads a truth value. A number is true unless it is zero. -/
def truth (layer : Layer) : Except LoadFault Bool :=
  match layer with
  | .leaf _ (.bool b) => .ok b
  | .leaf _ (.int n) => .ok (n ≠ 0)
  | .leaf _ (.float x) => .ok (!x.isZero)
  | .leaf _ (.text s) =>
      let word := lower s
      if word = "1" then .ok true
      else if word = "0" then .ok false
      else
        match truthOf? word with
        | some b => .ok b
        | none => layer.mismatch ("string " ++ quoted word) "a boolean"
  | _ => layer.mismatch layer.words "a boolean"

/-- Reads a text. Numbers and truth values count as their text. -/
def plainText (layer : Layer) : Except LoadFault String :=
  match layer with
  | .leaf _ (.text s) => .ok s
  | .leaf _ (.bool b) => .ok (if b then "true" else "false")
  | .leaf _ (.int n) => .ok (signedDecimal n)
  | .leaf _ (.float x) => .ok x.text
  | _ => layer.mismatch layer.words "a string"

/-- A field of a record: how a fault names it, and what stands there. -/
structure Field where
  segment : String
  content : Option Layer

/-- The fields of a record, from a table by name or from a list by position. Surplus items of a list
are ignored. -/
def fields (recordName : String) (names : List String) : Layer → Except LoadFault (List Field)
  | .table _ entries => .ok (names.map fun name => ⟨name, Keyed.find? entries name⟩)
  | .list _ items =>
      .ok (names.zipIdx.map fun (_, i) => ⟨"[" ++ decimal i ++ "]", items[i]?⟩)
  | .leaf _ scalar =>
      .error (.message ("invalid type: " ++ scalar.words ++ ", expected struct " ++ recordName))

/-- Reads a field, which has a default where nothing stands. -/
def Field.read {α : Type} (field : Field) (default : α) (read : Layer → Except LoadFault α) :
    Except LoadFault α :=
  match field.content with
  | none => .ok default
  | some layer => (read layer).mapError (·.within field.segment)

/-- Reads a 64-bit word. -/
def word64 (layer : Layer) : Except LoadFault UInt64 := UInt64.ofNat <$> layer.word

/-- Reads a 32-bit word. -/
def word32 (layer : Layer) : Except LoadFault UInt32 := UInt32.ofNat <$> layer.shortWord 32

/-- Reads a 16-bit word. -/
def word16 (layer : Layer) : Except LoadFault UInt16 := UInt16.ofNat <$> layer.shortWord 16

end Layer

open Layer

/-- Reads key material paths. -/
def TlsInfo.ofLayer (layer : Layer) : Except LoadFault TlsInfo := do
  match ← layer.fields "TlsInfo" fieldNames with
  | [cert, key, ca, auth] =>
      return {
        certFile := ← cert.read "" plainText
        keyFile := ← key.read "" plainText
        trustedCaFile := ← ca.read "" plainText
        clientCertAuth := ← auth.read false truth }
  | _ => return {}

/-- Reads the selection for one channel. -/
def TlsSelection.ofLayer (layer : Layer) : Except LoadFault TlsSelection := do
  match ← layer.fields "ChannelTlsConfig" ["auto_tls", "manual"] with
  | [auto, manual] =>
      return { auto := ← auto.read false truth, manual := ← manual.read {} TlsInfo.ofLayer }
  | _ => return {}

/-- Reads the fleet section. -/
def FleetSection.ofLayer (layer : Layer) : Except LoadFault FleetSection := do
  let d : FleetSection := {}
  match ← layer.fields "FleetConfig" fieldNames with
  | [size, rootDir, rootPort, host, interval, engineBinary, logDir] =>
      return {
        size := ← size.read d.size word64
        rootDir := ← rootDir.read d.rootDir plainText
        rootPort := ← rootPort.read d.rootPort word16
        host := ← host.read d.host plainText
        stopStartIntervalMs := ← interval.read d.stopStartIntervalMs word64
        engineBinary := ← engineBinary.read d.engineBinary plainText
        logDir := ← logDir.read d.logDir plainText }
  | _ => return d

/-- Reads the security section. -/
def TlsSection.ofLayer (layer : Layer) : Except LoadFault TlsSection := do
  match ← layer.fields "TlsConfig" ["client", "peer"] with
  | [client, peer] =>
      return {
        client := ← client.read {} TlsSelection.ofLayer
        peer := ← peer.read {} TlsSelection.ofLayer }
  | _ => return {}

/-- Reads the monitor section. -/
def MonitorSection.ofLayer (layer : Layer) : Except LoadFault MonitorSection := do
  let d : MonitorSection := {}
  match ← layer.fields "MonitorConfig" fieldNames with
  | [tick, probe, dial, backoff, attempts, poll] =>
      return {
        tickIntervalMs := ← tick.read d.tickIntervalMs word64
        probeTimeoutMs := ← probe.read d.probeTimeoutMs word64
        dialTimeoutMs := ← dial.read d.dialTimeoutMs word64
        leaderDiscoveryBackoffMs := ← backoff.read d.leaderDiscoveryBackoffMs word64
        leaderDiscoveryMaxAttempts := ← attempts.read d.leaderDiscoveryMaxAttempts word32
        readinessPollIntervalMs := ← poll.read d.readinessPollIntervalMs word64 }
  | _ => return d

/-- Reads the exporter section. -/
def MonitoringSection.ofLayer (layer : Layer) : Except LoadFault MonitoringSection := do
  let d : MonitoringSection := {}
  match ← layer.fields "MonitoringConfig" ["prometheus_enabled", "prometheus_port"] with
  | [enabled, port] =>
      return {
        prometheusEnabled := ← enabled.read d.prometheusEnabled truth
        prometheusPort := ← port.read d.prometheusPort word16 }
  | _ => return d

/-- Reads settings. -/
def FleetSettings.ofLayer (layer : Layer) : Except LoadFault FleetSettings := do
  match ← layer.fields "FleetSettings" ["fleet", "tls", "monitor", "monitoring"] with
  | [fleet, tls, monitor, monitoring] =>
      return {
        fleet := ← fleet.read {} FleetSection.ofLayer
        tls := ← tls.read {} TlsSection.ofLayer
        monitor := ← monitor.read {} MonitorSection.ofLayer
        monitoring := ← monitoring.read {} MonitoringSection.ofLayer }
  | _ => return {}

end FleetControl
