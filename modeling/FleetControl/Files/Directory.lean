import FleetControl.Files.Tree

/-!
# Directories of the fleet

The file operations of the controller: wiping and preparing a directory, removing one, and opening
a log. Each answers with the tree as it is afterwards, also when it fails, and a failure names the
path that was asked for.
-/

namespace FleetControl.Files

/-- Removes a directory with everything below it. A missing directory is no failure. -/
def removeDirectory (files : Files) (path : String) : Files × Except Error Unit :=
  match files.removeTree path with
  | (after, .ok ()) => (after, .ok ())
  | (after, .error .notFound) => (after, .ok ())
  | (after, .error fault) => (after, .error (.path path fault))

/-- Wipes a directory and makes it anew, with its missing ancestors. -/
def prepareDirectory (files : Files) (path : String) : Files × Except Error Unit :=
  match files.removeDirectory path with
  | (after, .error e) => (after, .error e)
  | (after, .ok ()) =>
      match after.makeAll path with
      | (made, .ok ()) => (made, .ok ())
      | (made, .error fault) => (made, .error (.path path fault))

/-- Opens a file at its end, making it and the directories on the way if they are missing. -/
def openForAppend (files : Files) (path : String) : Files × Except Error Unit :=
  let ready : Files × Except Error Unit :=
    match Path.parent? path with
    | none => (files, .ok ())
    | some parent =>
        if parent.isEmpty || files.exists? parent then (files, .ok ())
        else
          match files.makeAll parent with
          | (made, .ok ()) => (made, .ok ())
          | (made, .error fault) => (made, .error (.path parent fault))
  match ready with
  | (after, .error e) => (after, .error e)
  | (after, .ok ()) =>
      match after.appendText path "" with
      | .ok opened => (opened, .ok ())
      | .error fault => (after, .error (.path path fault))

end FleetControl.Files
