import FleetControl.Files.Tree
import FleetControl.Settings.Coercion
import FleetControl.Settings.Environment
import FleetControl.Toml.Document

/-!
# Loading settings

Settings are laid over each other in a fixed order: what is already in force, the default file, the
file that the environment names, and the environment itself. An override lays one more file, and the
environment once again, over settings that were loaded before.
-/

namespace FleetControl

open FleetControl.Number

/-- Where settings are loaded from. -/
structure Surroundings where
  files : Files := {}
  environment : Environment := []

namespace FleetSettings

/-- The integers in a tree of plain data, in order. -/
def integersOf : List (String × Value) → List Int
  | [] => []
  | (_, .int n) :: rest => n :: integersOf rest
  | (_, .table entries) :: rest => integersOf entries ++ integersOf rest
  | _ :: rest => integersOf rest

/-- The greatest integer that a layer can hold. -/
def maxInteger : Int := signedBound - 1

/-- Settings as a layer. An integer above the greatest one that a layer can hold is refused. -/
def toLayer (settings : FleetSettings) : Except LoadFault Layer :=
  match settings.toValue with
  | .table entries =>
      match (integersOf entries).find? (maxInteger < ·) with
      | some n =>
          .error (.message ("value " ++ signedDecimal n ++ " is greater than the max " ++
            signedDecimal maxInteger))
      | none => .ok (.table none (Layer.ofEntries none entries))
  | _ => .ok .empty

/-- The ending of settings files. -/
def fileEnding : String := "toml"

/-- The file that a name stands for: the file of exactly that name, or else the one with the ending of
settings files appended. -/
def findFile (files : Files) (name : String) : Except LoadFault String :=
  if files.isFile name then
    if (Path.fileName? name).bind Path.extensionOf? = some fileEnding then .ok name
    else
      .error (.file ("configuration file \"" ++ name ++ "\" is not of a registered file format"))
  else
    let longer := Path.appendToName name ("." ++ fileEnding)
    if files.isFile longer then .ok longer
    else .error (.file ("configuration file \"" ++ name ++ "\" not found"))

/-- How messages name a file. -/
def originOf (path : String) : Origin := .file ("/".intercalate (Path.components path))

/-- Passes over the byte order mark at the start of a file. -/
def withoutMark (text : String) : String :=
  match text.toList with
  | '\ufeff' :: rest => String.ofList rest
  | _ => text

/-- The entries that a file sets. -/
def fileEntries (files : Files) (path : String) : Except LoadFault (List (String × Layer)) :=
  match files.readText path with
  | .error fault => .error (.file fault.message)
  | .ok text =>
      match Toml.read (withoutMark text) with
      | .error place => .error (.grammar place)
      | .ok entries => .ok (Layer.ofEntries (some (originOf path)) entries)

/-- The entries of a file that must exist. -/
def requiredFile (files : Files) (name : String) : Except LoadFault (List (String × Layer)) := do
  fileEntries files (← findFile files name)

/-- The entries of a file that may be missing. -/
def optionalFile (files : Files) (name : String) : Except LoadFault (List (String × Layer)) :=
  match findFile files name with
  | .error _ => .ok []
  | .ok path => fileEntries files path

/-- The name of the default settings file. -/
def defaultFile : String := "config/fleet"

/-- The variable that names a settings file. -/
def pathVariable : String := "CONFIG_PATH"

/-- Loads settings without validating them. -/
def new (surroundings : Surroundings) : Except LoadFault FleetSettings := do
  let base ← toLayer {}
  let standard ← optionalFile surroundings.files defaultFile
  let chosen ←
    match surroundings.environment.find? pathVariable with
    | some name => requiredFile surroundings.files name
    | none => pure []
  ofLayer (((base.layAll standard).layAll chosen).layAll surroundings.environment.entries)

/-- Lays a file and the environment over settings, without validating the result. -/
def withOverride (settings : FleetSettings) (surroundings : Surroundings) (name : String) :
    Except LoadFault FleetSettings := do
  let base ← settings.toLayer
  let chosen ← requiredFile surroundings.files name
  ofLayer ((base.layAll chosen).layAll surroundings.environment.entries)

/-- A fault of loading as the end of a call. -/
def stopOf (fault : LoadFault) : Stop := .error (.config fault)

/-- Loads settings, with an override file if one is named, and validates them. -/
def load (surroundings : Surroundings) (name : Option String) : Except Stop FleetSettings := do
  let settings ← (new surroundings).mapError stopOf
  let settings ←
    match name with
    | none => pure settings
    | some name => (settings.withOverride surroundings name).mapError stopOf
  settings.validate
  return settings

end FleetSettings

end FleetControl
