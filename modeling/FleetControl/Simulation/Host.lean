import FleetControl.Engine.Child
import FleetControl.Log
import FleetControl.Network.Client
import FleetControl.Simulation.Shell
import FleetControl.Simulation.Surroundings

/-!
# A simulated host

The engine adapter on a host whose executables are shell scripts. Nothing listens on this host, so a
process that goes on running never becomes ready.
-/

namespace FleetControl.Simulation

open FleetControl.Engine FleetControl.Number

/-- A process of the host. -/
structure HostProcess where
  name : String
  log : String
  /-- When the process ends by itself, and how; nothing if it never does. -/
  course : Option (Nanos × ExitStatus)
  /-- What it still writes before that. -/
  later : String := ""
  closed : Bool := false
  killed : Bool := false
deriving DecidableEq, Repr

/-- A host. -/
structure Host where
  launcher : Launcher
  /-- The files that can be executed. -/
  executables : List FileKey := []
  processes : Keyed Nat HostProcess := []
  /-- How many processes were started. -/
  started : Nat := 0
  log : List LogLine := []

/-- Where commands are looked for that are named without a slash. -/
def commandDirs : List String := ["/usr/local/sbin", "/usr/local/bin", "/usr/sbin", "/usr/bin",
  "/sbin", "/bin"]

/-- Commands of every host that take no notice of their arguments, with their exit codes. -/
def plainCommands : List (String × Nat) := [("true", 0), ("false", 1)]

/-- The exit code of a command of every host. -/
def plainCommand? (binary : String) : Option Nat :=
  (plainCommands.find? fun (name, _) =>
    binary = name || commandDirs.any fun dir => binary = dir ++ "/" ++ name).map (·.2)

namespace HostProcess

/-- How a process ends: by itself, or by being killed before that. -/
def ending? (process : HostProcess) : Option (Nanos × ExitStatus) :=
  match process.course with
  | some (0, status) => some (0, status)
  | course => if process.killed then some (0, .signalled killSignal) else course

/-- What a process has written by its end. A killed one does not go on writing. -/
def finalText (process : HostProcess) : String := if process.killed then "" else process.later

end HostProcess

namespace Host

/-- The script behind a path, or why it cannot be executed. -/
def executable (host : Host) (files : Files) (binary : String) : Except IoFault String := do
  if '/' ∈ binary.toList then
    match ← files.stat true binary with
    | (key, .file text) => if key ∈ host.executables then .ok text else .error .permissionDenied
    | _ => .error .permissionDenied
  else .error .notFound

/-- The first line of a script names its interpreter and is no command. -/
def scriptBody (text : String) : String :=
  if text.startsWith "#!" then
    String.ofList ((text.toList.dropWhile (· ≠ '\n')).drop 1)
  else text

/-- Runs a script that a path leads to. -/
def runScript (files : Files) (order : LaunchOrder) (name text : String) : Files × HostProcess :=
  match Shell.read? (scriptBody text) with
  | none => (files, { name, log := order.log, course := none })
  | some commands =>
      let session : Shell.Session :=
        { files, log := order.log, name := order.binary, parameters := order.arguments }
      let session := session.run commands
      (session.files,
        { name, log := order.log, later := session.later
          course := session.ended.map fun status => (session.elapsed, status) })

/-- Starts a process. -/
def spawn (host : Host) (files : Files) (order : LaunchOrder) (name : String) :
    Except IoFault (Files × HostProcess) := do
  if order.arguments.any fun argument => '\x00' ∈ argument.toList then .error .nullInArgument
  match plainCommand? order.binary with
  | some code => .ok (files, { name, log := order.log, course := some (0, .exited code) })
  | none =>
      let text ← host.executable files order.binary
      .ok (runScript files order name text)

/-- Adds a line to the log. -/
def note (host : Host) (level : LogLevel) (text : String) : Host :=
  { host with log := host.log ++ [{ level, text }] }

/-- Launches a member. -/
def launch (host : Host) (files : Files) (slot : Nat) (config : MemberConfig) :
    Host × Files × Except Error MemberConfig :=
  let host := host.note .info ("starting " ++ config.name ++ " with " ++ config.clientUrl)
  let made := host.launcher.issuer.authority
  let (launcher, files, outcome) := host.launcher.prepare files config
  let host := { host with launcher }
  let host :=
    match launcher.issuer.authority with
    | some authority =>
        if some authority = made then host
        else host.note .info
          ("generated auto TLS authority under " ++ Text.quoted authority.dir)
    | none => host
  match outcome with
  | .error e => (host, files, .error e)
  | .ok (order, config) =>
      match host.spawn files order config.name with
      | .error fault => (host, files, .error (.engineStart config.name (.io fault)))
      | .ok (files, process) =>
          let number := host.started + 1
          let host := { host with
            processes := host.processes.set slot process, started := number }
          let host := host.note .info
            ("launched " ++ config.name ++ " (pid Some(" ++ decimal number ++ "))")
          (host, files, .ok config)

/-- The process in a slot. -/
def process? (host : Host) (slot : Nat) : Option HostProcess := host.processes.find? slot

/-- Changes the process in a slot. -/
def changeProcess (host : Host) (slot : Nat) (change : HostProcess → HostProcess) : Host :=
  match host.process? slot with
  | some process => { host with processes := host.processes.set slot (change process) }
  | none => host

/-- When and why a process is given up before it is ready. -/
def ready (host : Host) (slot : Nat) : Option Nanos × Except Error Unit :=
  match host.process? slot with
  | none => (none, .ok ())
  | some process =>
      if process.closed then (some 0, verdict process none)
      else
        match process.ending? with
        | some (delay, status) => (some delay, verdict process (some status))
        | none => (none, .ok ())
where
  /-- The outcome of a look at a process. -/
  verdict (process : HostProcess) (status : Option ExitStatus) : Except Error Unit :=
    match notReady? process.name process.closed status with
    | some error => .error error
    | none => .ok ()

/-- Stops a process at once. -/
def hardStop (host : Host) (slot : Nat) : Host := host.changeProcess slot ({ · with killed := true })

/-- Releases what is held of a process. -/
def close (host : Host) (slot : Nat) : Host := host.changeProcess slot ({ · with closed := true })

/-- How long a process takes to end. -/
def ending (host : Host) (slot : Nat) : Option Nanos :=
  ((host.process? slot).bind (·.ending?)).map (·.1)

/-- What a process has written once it has ended. -/
def drain (host : Host) (files : Files) (slot : Nat) : Host × Files :=
  match host.process? slot with
  | some process =>
      (host.changeProcess slot ({ · with later := "" }),
        (files.appendText process.log process.finalText).toOption.getD files)
  | none => (host, files)

/-- A host as surroundings. -/
def surroundings : Surroundings Host where
  launch host _ files slot config := host.launch files slot config
  ready := ready
  readied host _ _ _ := host
  hardStop host _ slot := host.hardStop slot
  close host _ slot := host.close slot
  ending host slot := (host.ending slot).getD 0
  ended host _ _ := host
  ask host _ _ := (host, 0, fun host =>
    (host, .reply (.error { stage := .client, source := .transport })))

end Host

end FleetControl.Simulation
