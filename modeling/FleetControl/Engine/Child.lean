import FleetControl.Engine.Arguments
import FleetControl.Engine.Material
import FleetControl.Files.Directory

/-!
# Engine processes

How the engine adapter launches a member and follows its process: what it hands to the operating
system, where the process writes, and when the adapter gives up waiting for it.
-/

namespace FleetControl.Engine

open FleetControl.Number

/-- How a process ended. -/
inductive ExitStatus where
  | exited (code : Nat)
  | signalled (number : Nat)
deriving DecidableEq, Repr

/-- The names of the signals, by number from one. -/
def signalNames : List String :=
  ["SIGHUP", "SIGINT", "SIGQUIT", "SIGILL", "SIGTRAP", "SIGABRT", "SIGBUS", "SIGFPE", "SIGKILL",
    "SIGUSR1", "SIGSEGV", "SIGUSR2", "SIGPIPE", "SIGALRM", "SIGTERM", "SIGSTKFLT", "SIGCHLD",
    "SIGCONT", "SIGSTOP", "SIGTSTP", "SIGTTIN", "SIGTTOU", "SIGURG", "SIGXCPU", "SIGXFSZ",
    "SIGVTALRM", "SIGPROF", "SIGWINCH", "SIGIO", "SIGPWR", "SIGSYS"]

/-- The name of a signal. -/
def signalName? (number : Nat) : Option String :=
  if number = 0 then none else signalNames[number - 1]?

/-- The text of an end. -/
def ExitStatus.text : ExitStatus → String
  | .exited code => "exit status: " ++ decimal code
  | .signalled number =>
      "signal: " ++ decimal number ++ ((signalName? number).elim "" fun name => " (" ++ name ++ ")")

/-- The signal that stops a process at once. -/
def killSignal : Nat := 9

/-- One look at a process that is not serving yet: why it never will, if that is known. A handle that
was closed is given up whether the process has ended or not. -/
def notReady? (name : String) (closed : Bool) (status : Option ExitStatus) : Option Error :=
  if closed then some (.engineNotReady name "process handle was closed")
  else status.map fun status => .engineNotReady name ("process exited with " ++ status.text)

/-- The adapter that launches engine processes. -/
structure Launcher where
  binary : String
  issuer : Issuer := {}
deriving DecidableEq, Repr

/-- What is handed to the operating system. -/
structure LaunchOrder where
  binary : String
  arguments : List String
  /-- The file at whose end the process writes. -/
  log : String
deriving DecidableEq, Repr

/-- Where a member's process writes: beside the member's data directory. -/
def logPath (config : MemberConfig) : String :=
  Path.join (homeOf config) (config.name ++ ".log")

/-- Prepares the launch of a member: its channels get the material they ask for, and its log is
opened. -/
def Launcher.prepare (launcher : Launcher) (files : Files) (config : MemberConfig) :
    Launcher × Files × Except Error (LaunchOrder × MemberConfig) :=
  let refused (e : Error) : Error := .engineStart config.name e
  match launcher.issuer.canonicalize files config with
  | (issuer, files, .error e) => ({ launcher with issuer }, files, .error (refused e))
  | (issuer, files, .ok config) =>
      let log := logPath config
      match files.openForAppend log with
      | (files, .error e) => ({ launcher with issuer }, files, .error (refused e))
      | (files, .ok ()) =>
          let order : LaunchOrder :=
            { binary := launcher.binary, arguments := arguments config, log }
          ({ launcher with issuer }, files, .ok (order, config))

end FleetControl.Engine
