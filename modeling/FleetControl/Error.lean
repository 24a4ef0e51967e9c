import FleetControl.Number.Word
import FleetControl.Text.Place
import FleetControl.Text.Quoted
import FleetControl.Text.Span
import FleetControl.Tls

/-!
# Failures

Why an operation fails, as causes, and the text of each cause. File system failures, failures of
a call to a member, failures of a probe and failures handed to the caller of the fleet are four
types. `Error.message` is what a user reads and `Error.detail` what the program prints when it ends
with the failure.
-/

namespace FleetControl

open FleetControl.Number FleetControl.Text

/-- Why a file system operation fails. -/
inductive IoFault where
  | notFound
  | permissionDenied
  | alreadyExists
  | notADirectory
  | isADirectory
  | directoryNotEmpty
  | invalidArgument
  | nameTooLong
  | linkLoop
  | badExecutable
  | networkUnreachable
  /-- The path holds a null character. -/
  | nullInPath
  /-- An argument of a program holds a null character. -/
  | nullInArgument
  /-- A failure known by its text only. -/
  | other (text : String)
deriving DecidableEq, Repr, Inhabited

namespace IoFault

/-- The class of a failure. -/
def kind : IoFault → String
  | .notFound => "NotFound"
  | .permissionDenied => "PermissionDenied"
  | .alreadyExists => "AlreadyExists"
  | .notADirectory => "NotADirectory"
  | .isADirectory => "IsADirectory"
  | .directoryNotEmpty => "DirectoryNotEmpty"
  | .invalidArgument => "InvalidInput"
  | .nameTooLong => "InvalidFilename"
  | .linkLoop => "FilesystemLoop"
  | .badExecutable => "Uncategorized"
  | .networkUnreachable => "NetworkUnreachable"
  | .nullInPath => "InvalidInput"
  | .nullInArgument => "InvalidInput"
  | .other _ => "Other"

/-- The number by which the operating system knows a failure, if it reports it. -/
def number? : IoFault → Option Nat
  | .notFound => some 2
  | .permissionDenied => some 13
  | .alreadyExists => some 17
  | .notADirectory => some 20
  | .isADirectory => some 21
  | .directoryNotEmpty => some 39
  | .invalidArgument => some 22
  | .nameTooLong => some 36
  | .linkLoop => some 40
  | .badExecutable => some 8
  | .networkUnreachable => some 101
  | .nullInPath => none
  | .nullInArgument => none
  | .other _ => none

/-- The words for a failure. -/
def words : IoFault → String
  | .notFound => "No such file or directory"
  | .permissionDenied => "Permission denied"
  | .alreadyExists => "File exists"
  | .notADirectory => "Not a directory"
  | .isADirectory => "Is a directory"
  | .directoryNotEmpty => "Directory not empty"
  | .invalidArgument => "Invalid argument"
  | .nameTooLong => "File name too long"
  | .linkLoop => "Too many levels of symbolic links"
  | .badExecutable => "Exec format error"
  | .networkUnreachable => "Network is unreachable"
  | .nullInPath => "file name contained an unexpected NUL byte"
  | .nullInArgument => "nul byte found in provided data"
  | .other text => text

/-- The text of a failure: its words, and its number if the operating system reports it. -/
def message (fault : IoFault) : String :=
  match fault.number? with
  | some n => fault.words ++ " (os error " ++ decimal n ++ ")"
  | none => fault.words

/-- The parts of a failure, by name. -/
def detail (fault : IoFault) : String :=
  match fault.number? with
  | some n =>
      "Os \x7b code: " ++ decimal n ++ ", kind: " ++ fault.kind ++ ", message: " ++
        quoted fault.words ++ " \x7d"
  | none =>
      match fault with
      | .other text => "Custom \x7b kind: Other, error: " ++ quoted text ++ " \x7d"
      | _ =>
          "Error \x7b kind: " ++ fault.kind ++ ", message: " ++ quoted fault.words ++ " \x7d"

end IoFault

/-- Names of the status codes of a remote call, by number. -/
def statusNames : List String :=
  ["Ok", "Cancelled", "Unknown", "InvalidArgument", "DeadlineExceeded", "NotFound",
    "AlreadyExists", "PermissionDenied", "ResourceExhausted", "FailedPrecondition", "Aborted",
    "OutOfRange", "Unimplemented", "Internal", "Unavailable", "DataLoss", "Unauthenticated"]

/-- The status code for a number; a number without a name stands for an unknown status. -/
def statusCode (number : Int) : Nat :=
  if 0 ≤ number ∧ number ≤ 16 then number.toNat else 2

/-- Why a call to a member fails. -/
inductive NetworkFault where
  | invalidUri (uri : String)
  | tlsMaterial (path : String) (source : IoFault)
  | transport
  | status (code : Nat) (text : String)
  | timeout (after : Nanos)
  | cancelled
  /-- The response lacks a field. -/
  | malformed (field : String)
deriving DecidableEq, Repr, Inhabited

/-- The text of a failed call. -/
def NetworkFault.message : NetworkFault → String
  | .invalidUri uri => "Invalid URI format: " ++ uri
  | .tlsMaterial path source =>
      "failed to read TLS material at " ++ path ++ ": " ++ source.message
  | .transport => "transport error"
  | .status code text =>
      "status: " ++ statusNames.getD code "Unknown" ++ ", message: " ++ quoted text ++
        ", details: [], metadata: MetadataMap \x7b headers: \x7b\x7d \x7d"
  | .timeout after => "request timed out after " ++ Nanos.text after
  | .cancelled => "request cancelled"
  | .malformed field => "malformed response: " ++ field

/-- The step of a probe that failed. -/
inductive ProbeStage where
  | client
  | status
  | dial
  | hash
deriving DecidableEq, Repr, Inhabited

/-- The wording of a step in a member's status text. -/
def ProbeStage.activity : ProbeStage → String
  | .client => "client call"
  | .status => "getting status"
  | .dial => "dialing"
  | .hash => "getting hash"

/-- The label of a step in the metrics. -/
def ProbeStage.label : ProbeStage → String
  | .client => "client"
  | .status => "status"
  | .dial => "dial"
  | .hash => "hash"

/-- A failed probe: the step and the call that failed in it. -/
structure ProbeFault where
  stage : ProbeStage
  source : NetworkFault
deriving DecidableEq, Repr, Inhabited

namespace ProbeFault

/-- The text of a failed probe. -/
def message (fault : ProbeFault) : String :=
  fault.stage.activity ++ " failed: " ++ fault.source.message

/-- The probe was abandoned because the root signal fired, so it says nothing about the member. -/
def isCancelled (fault : ProbeFault) : Bool := fault.source = .cancelled

end ProbeFault

/-- Why settings cannot be loaded. -/
inductive LoadFault where
  /-- A value has a form that its field cannot take. The origin is the source that set it. -/
  | type (found expected : String) (key origin : Option String)
  | message (text : String)
  /-- A file is missing or of an unknown format. -/
  | file (text : String)
  /-- A file follows the grammar of its format up to a place only. -/
  | grammar (place : Place)
deriving DecidableEq, Repr, Inhabited

/-- The text of a failure to load settings. -/
def LoadFault.text : LoadFault → String
  | .type found expected key origin =>
      "invalid type: " ++ found ++ ", expected " ++ expected ++
        (key.elim "" fun k => " for key `" ++ k ++ "`") ++ (origin.elim "" fun o => " in " ++ o)
  | .message text => text
  | .file text => text
  | .grammar place => "TOML parse error at " ++ place.shown

/-- Why an operation on the fleet fails. -/
inductive Error where
  | config (fault : LoadFault)
  | invalidConfig (reason : String)
  | ambiguousTls (channel : Channel)
  | io (fault : IoFault)
  | path (path : String) (fault : IoFault)
  /-- The engine refused to start a member. -/
  | engineStart (name : String) (source : Error)
  /-- The engine went away before it accepted connections. -/
  | engineNotReady (name reason : String)
  | memberNotFound (index : Nat)
  | leaderDiscovery (name : String) (attempts : Nat)
  | cancelled
  | tls (text : String)
  | network (fault : NetworkFault)
  /-- A failure of the engine known by its text only. -/
  | engine (text : String)
deriving DecidableEq, Repr, Inhabited

namespace Error

/-- The text of a failure. -/
def message : Error → String
  | .config fault => fault.text
  | .invalidConfig reason => "Invalid config: " ++ reason
  | .ambiguousTls channel => "choose either auto TLS or manual " ++ channel.word ++ " TLS"
  | .io fault => fault.message
  | .path file _ => "Error occurred at path: " ++ file
  | .engineStart name source => "failed to start " ++ name ++ ": " ++ source.message
  | .engineNotReady name reason => name ++ " is not ready: " ++ reason
  | .memberNotFound index => "member index " ++ decimal index ++ " is out of range"
  | .leaderDiscovery name attempts =>
      name ++ " observed no leader after " ++ decimal attempts ++ " attempts"
  | .cancelled => "operation cancelled by root cancellation"
  | .tls text => "TLS material generation failed: " ++ text
  | .network fault => fault.message
  | .engine text => text

/-- The parts of a failure, by name. -/
def detail : Error → String
  | .config fault => "Config(" ++ fault.text ++ ")"
  | .invalidConfig reason => "InvalidConfig(" ++ quoted reason ++ ")"
  | .ambiguousTls channel =>
      "AmbiguousTls \x7b channel: " ++ quoted channel.word ++ " \x7d"
  | .io fault => "Io(" ++ fault.detail ++ ")"
  | .path file fault =>
      "PathError \x7b path: " ++ quoted file ++ ", source: " ++ fault.detail ++ " \x7d"
  | .engineStart name source =>
      "EngineStart \x7b name: " ++ quoted name ++ ", source: " ++ source.detail ++ " \x7d"
  | .engineNotReady name reason =>
      "EngineNotReady \x7b name: " ++ quoted name ++ ", reason: " ++ quoted reason ++ " \x7d"
  | .memberNotFound index => "MemberNotFound(" ++ decimal index ++ ")"
  | .leaderDiscovery name attempts =>
      "LeaderDiscovery \x7b name: " ++ quoted name ++ ", attempts: " ++ decimal attempts ++ " \x7d"
  | .cancelled => "Cancelled"
  | .tls text => "Tls(" ++ quoted text ++ ")"
  | .network fault => "Network(" ++ fault.message ++ ")"
  | .engine text => quoted text

end Error

/-- How a call ends that does not return a value: with a failure for its caller, or by unwinding
the task it runs in. -/
inductive Stop where
  | error (e : Error)
  | unwound (text : String)
deriving DecidableEq, Repr, Inhabited

/-- An overflow unwinds the task. -/
def Stop.ofOverflow (overflow : Overflow) : Stop := .unwound overflow.message

end FleetControl
