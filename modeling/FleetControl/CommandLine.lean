import FleetControl.Fleet.View
import FleetControl.Settings.Load
import FleetControl.Simulation.Host
import FleetControl.Simulation.Rehearsal

/-!
# The command line

The program loads its settings, opens its log and starts the fleet. A signal that comes while the
fleet is being started abandons the start, which is no failure; one that comes later shuts the fleet
down. Here the program runs on a simulated host.
-/

namespace FleetControl.CommandLine

open FleetControl.Number FleetControl.Simulation FleetControl.Text

/-- The signals that the program listens to. -/
inductive Signal where
  | interrupt
  | terminate
deriving DecidableEq, Repr

/-- The name of a signal. -/
def Signal.name : Signal → String
  | .interrupt => "SIGINT"
  | .terminate => "SIGTERM"

/-- How the program is invoked. -/
structure Invocation where
  arguments : List String := []
  files : Files := {}
  environment : Environment := []
  /-- The files that can be executed. -/
  executables : List FileKey := []
  /-- A signal that is sent a moment after a file has become nonempty. -/
  signal : Option (Signal × String) := none

/-- How the program ends. -/
structure Outcome where
  code : Nat
  output : String := ""
  /-- The text that tells of a failure; its first line says what failed. -/
  failure : Option String := none
  /-- Where the log is, once it is open. -/
  log : Option String := none
  files : Files

/-- How long after its file a signal comes. -/
def signalDelay : Nanos := Nanos.ofMillis 100

/-- The exit code of a program whose task unwound. -/
def unwoundCode : Nat := 101

/-- The end of a program that fails. -/
def fail (files : Files) : Stop → Outcome
  | .error e => { code := 1, failure := some ("Error: " ++ e.detail), files }
  | .unwound _ => { code := unwoundCode, files }

/-- Where the program writes its log. -/
def logFile (settings : FleetSettings) : String := Path.join settings.fleet.logDir "fleet.log"

/-- Writes lines to the log, unless its file is gone. -/
def writeLog (settings : FleetSettings) (files : Files) (lines : List LogLine) : Files :=
  let path := logFile settings
  if files.isFile path then
    (files.appendText path (LogLine.writtenAll lines)).toOption.getD files
  else files

/-- What is logged before the first member is launched. -/
def openingLines (settings : FleetSettings) : List LogLine :=
  let monitoring := settings.monitoring
  let fleet := settings.fleet
  let metrics : List LogLine :=
    if monitoring.prometheusEnabled then
      [{ level := .info
         text := "serving metrics on 0.0.0.0:" ++ decimal monitoring.prometheusPort.toNat ++
           "/metrics" }]
    else if monitoring.prometheusPort ≠ ({} : MonitoringSection).prometheusPort then
      [{ level := .warning
         text := "prometheus_port configured to " ++ decimal monitoring.prometheusPort.toNat ++
           " but monitoring is disabled" }]
    else []
  { level := .info, text := "loaded " ++ settings.describe } :: metrics ++
    [{ level := .info
       text := "starting " ++ decimal fleet.size.toNat ++ " members (root directory " ++
         quoted fleet.rootDir ++ ", root port :" ++ decimal fleet.rootPort.toNat ++ ")" }]

/-- What is logged of a start that failed. Only a launch that failed leaves a member without a
process. -/
def failureLines (settings : FleetSettings) (launched : Nat) (error : Error) : List LogLine :=
  let cause : LogLine :=
    if launched < settings.fleet.size.toNat then
      { level := .error
        text := "failed to start member " ++ decimal launched ++ ": " ++ error.message }
    else
      { level := .error
        text := (match error with
          | .leaderDiscovery .. => "leader discovery failed: "
          | _ => "fleet did not become ready: ") ++ error.message }
  [cause, { level := .warning
            text := "rolling back " ++ decimal launched ++ " launched members" }]

/-- What is logged of a signal that abandons the start. -/
def signalLines (signal : Signal) : List LogLine :=
  [{ level := .info, text := signal.name ++ " detected." },
    { level := .warning, text := "shutdown requested while the fleet was starting" }]

/-- The end of a start that came by itself. -/
def conclude (settings : FleetSettings) (line : Timeline Host) : Option Outcome :=
  let opening := openingLines settings ++ line.world.log
  let files := line.fleet.files
  match line.startEnding with
  | .pending => none
  | .ended (.ok ()) => none
  | .ended (.error (.unwound text)) => some (fail (writeLog settings files opening) (.unwound text))
  | .ended (.error (.error e)) =>
      let lines := opening ++ failureLines settings line.fleet.launches e
      some (fail (writeLog settings files lines) (.error e))

/-- The end of a start that a signal abandons. -/
def abandon (settings : FleetSettings) (signal : Signal) (line : Timeline Host) : Outcome :=
  let launched := line.fleet.launches
  let opening := openingLines settings ++ line.world.log ++ signalLines signal
  let line := (line.outside .fireRoot).advance Timeline.startIsOver (line.now + patience) stepLimit
  let lines :=
    match line.startEnding with
    | .ended (.error (.error e)) =>
        opening ++ failureLines settings launched e ++
          [{ level := .info, text := "fleet start abandoned: " ++ e.message }]
    | _ => opening
  { code := 0, files := writeLog settings line.fleet.files lines }

/-- The end of a fleet that a signal shuts down. -/
def shutDown (settings : FleetSettings) (signal : Signal) (line : Timeline Host) : Outcome :=
  let opening := openingLines settings ++ line.world.log ++ (signalLines signal).take 1
  let (line, finish) := line.call .shutdown
  let files := writeLog settings line.fleet.files opening
  match finish.result with
  | some (.error e) => fail files (.error e)
  | _ => { code := 0, output := "Exiting program.\n", files }

/-- Follows a start until it ends by itself or a signal ends it. -/
def follow (settings : FleetSettings) (signal : Option (Signal × String)) (line : Timeline Host) :
    Option Outcome :=
  let line := (line.advance Timeline.startIsOver signalDelay stepLimit).enterRunning
  match conclude settings line with
  | some outcome => some outcome
  | none =>
      let heard := signal.filter fun (_, path) =>
        ((line.fleet.files.readText path).toOption.getD "") ≠ ""
      match heard, line.startIsOver with
      | some (signal, _), false => some (abandon settings signal line)
      | some (signal, _), true => some (shutDown settings signal line)
      | none, _ =>
          conclude settings (line.advance Timeline.startIsOver (line.now + patience) stepLimit)

/-- Starts the fleet, once the log is open. -/
def start (invocation : Invocation) (settings : FleetSettings) (files : Files) : Option Outcome :=
  let host : Host :=
    { launcher := { binary := settings.fleet.engineBinary }
      executables := invocation.executables }
  match Timeline.opening Host.surroundings host settings (Layout.clusterToken "") files none with
  | .refused files stop => some (fail (writeLog settings files (openingLines settings)) stop)
  | .begun line => follow settings invocation.signal line

/-- Runs the program. There is no outcome if it goes on running. -/
def run (invocation : Invocation) : Option Outcome :=
  let files := invocation.files
  match FleetSettings.load { files, environment := invocation.environment }
      invocation.arguments.head? with
  | .error stop => some (fail files stop)
  | .ok settings =>
      match files.openForAppend (logFile settings) with
      | (files, .error e) => some (fail files (.error e))
      | (files, .ok ()) =>
          (start invocation settings files).map ({ · with log := some (logFile settings) })

end FleetControl.CommandLine
