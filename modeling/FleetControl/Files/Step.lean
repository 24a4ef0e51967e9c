import FleetControl.Files.Directory

/-!
# File steps

Single operations on a file tree, as data: the ones of the controller and plain ones that set a tree
up.
-/

namespace FleetControl

/-- An operation on a file tree. -/
inductive FileStep where
  | makeAll (path : String)
  | write (path text : String)
  | delete (path : String)
  | link (path target : String)
  | read (path : String)
  | prepare (path : String)
  | removeDirectory (path : String)
  | append (path text : String)
deriving DecidableEq, Repr

/-- The result of an operation on a file tree. -/
inductive FileResult where
  | done
  | text (content : Option String)
  | failed (error : Error)
  /-- A plain step that failed. -/
  | refused (fault : IoFault)
deriving DecidableEq, Repr

namespace FileStep

/-- The result of a plain step. -/
def plain (files : Files) : Except IoFault Files → Files × FileResult
  | .ok after => (after, .done)
  | .error fault => (files, .refused fault)

/-- The result of one of the controller's operations. -/
def own : Files × Except Error Unit → Files × FileResult
  | (after, .ok ()) => (after, .done)
  | (after, .error error) => (after, .failed error)

/-- The result of a plain step that may have changed the tree when it fails. -/
def partly : Files × Except IoFault Unit → Files × FileResult
  | (after, .ok ()) => (after, .done)
  | (after, .error fault) => (after, .refused fault)

/-- Performs an operation. -/
def perform (files : Files) : FileStep → Files × FileResult
  | .makeAll path => partly (files.makeAll path)
  | .write path text => plain files (files.writeText path text)
  | .delete path => plain files (files.removeFile path)
  | .link path target => plain files (files.makeLink target path)
  | .read path => (files, .text (files.readText path).toOption)
  | .prepare path => own (files.prepareDirectory path)
  | .removeDirectory path => own (files.removeDirectory path)
  | .append path text =>
      match files.openForAppend path with
      | (after, .ok ()) => plain after (after.appendText path text)
      | failed => own failed

/-- Performs operations one after the other, whatever their results. -/
def performAll (files : Files) (steps : List FileStep) : Files :=
  steps.foldl (fun files step => (step.perform files).1) files

end FileStep

end FleetControl
