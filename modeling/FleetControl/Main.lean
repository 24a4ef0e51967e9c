import FleetControl.CommandLine

/-!
# The program

Reads the files on which the settings may depend, runs the program on a host that has nothing to
execute, and ends as it does there: with its exit code, its output, the text that tells of a failure
and its log.
-/

namespace FleetControl.CommandLine

/-- The variables of a process, from the text in which the system keeps them: names and values with
an equals sign between, each ended by a null character. -/
def readEnvironment (text : String) : Environment :=
  (text.splitOn "\x00").filterMap fun entry =>
    let name := entry.toList.takeWhile (· ≠ '=')
    if name.isEmpty then none
    else some (String.ofList name, String.ofList (entry.toList.drop (name.length + 1)))

/-- The names from which settings may be read. -/
def settingsNames (arguments : List String) (environment : Environment) : List String :=
  let named := FleetSettings.defaultFile :: (environment.find? FleetSettings.pathVariable).toList ++
    arguments.head?.toList
  named.flatMap fun name => [name, Path.appendToName name ("." ++ FleetSettings.fileEnding)]

/-- Puts a text that was read into the tree, with the directories on the way. -/
def placeFile (files : Files) (path text : String) : Files :=
  let files :=
    match Path.parent? path with
    | some parent => (files.makeAll parent).1
    | none => files
  (files.writeText path text).toOption.getD files

/-- Reads the files that can be read. -/
def gatherFiles : List String → IO Files
  | [] => return {}
  | path :: rest => do
      let files ← gatherFiles rest
      try
        let text ← IO.FS.readFile path
        return placeFile files path text
      catch _ => return files

/-- Appends what the program logged to its log. -/
def keepLog (outcome : Outcome) : IO Unit := do
  let some path := outcome.log | return
  let .ok text := outcome.files.readText path | return
  if let some parent := (Path.parent? path).filter (· ≠ "") then
    IO.FS.createDirAll parent
  let log ← IO.FS.Handle.mk path IO.FS.Mode.append
  log.putStr text

end FleetControl.CommandLine

open FleetControl FleetControl.CommandLine in
/-- The entry point. -/
def main (arguments : List String) : IO UInt32 := do
  let environment := readEnvironment (← IO.FS.readFile "/proc/self/environ")
  let files ← gatherFiles (settingsNames arguments environment)
  match run { arguments, files, environment } with
  | none => return 0
  | some outcome =>
      keepLog outcome
      IO.print outcome.output
      outcome.failure.forM fun line => (IO.eprintln line : IO Unit)
      return UInt32.ofNat outcome.code
