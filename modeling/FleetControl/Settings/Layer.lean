import FleetControl.Keyed
import FleetControl.Text.LowerCase
import FleetControl.Value

/-!
# Layers of settings

Settings come in layers, from defaults, files and the environment. A layer is a tree of tables whose
leaves remember the source that set them. Laying one layer over another keeps what the upper one
does not name: tables are united, anything else is replaced. Keys count in lower case.

The top-level keys of a layer may be paths, `fleet.size` or `members[2].name`, and are then followed
into the tree; a key that is no path stands for itself.
-/

namespace FleetControl

open FleetControl.Number FleetControl.Text

/-- The source that set a value. -/
inductive Origin where
  | environment
  | file (path : String)
deriving DecidableEq, Repr, Inhabited

/-- The name of a source in messages. -/
def Origin.text : Origin → String
  | .environment => "the environment"
  | .file path => path

/-- A value without parts. -/
inductive Scalar where
  | nothing
  | bool (b : Bool)
  | int (n : Int)
  | float (x : Binary64)
  | text (s : String)
deriving DecidableEq, Repr, Inhabited

/-- A tree of settings. -/
inductive Layer where
  | leaf (origin : Option Origin) (value : Scalar)
  | list (origin : Option Origin) (items : List Layer)
  | table (origin : Option Origin) (entries : List (String × Layer))
deriving Inhabited

namespace Layer

/-- A table without entries that no source set. -/
def empty : Layer := .table none []

/-- A value that no source set. -/
def unset : Layer := .leaf none .nothing

/-- The source of a layer. -/
def origin? : Layer → Option Origin
  | .leaf origin _ => origin
  | .list origin _ => origin
  | .table origin _ => origin

/-- The entries of a table; none where there is no table. -/
def entries : Layer → Keyed String Layer
  | .table _ entries => entries
  | _ => []

/-- The entry of a table. -/
def get? (layer : Layer) (key : String) : Option Layer := Keyed.find? layer.entries key

/-- Gives a table an entry. What is no table becomes one first, without a source. -/
def setEntry (layer : Layer) (key : String) (entry : Layer) : Layer :=
  match layer with
  | .table origin entries => .table origin (Keyed.set entries key entry)
  | _ => .table none [(key, entry)]

mutual

/-- Plain data as a layer from one source. -/
def ofValue (origin : Option Origin) : Value → Layer
  | .null => .leaf origin .nothing
  | .bool b => .leaf origin (.bool b)
  | .int n => .leaf origin (.int n)
  | .float x => .leaf origin (.float x)
  | .text s => .leaf origin (.text s)
  | .list items => .list origin (ofItems origin items)
  | .table entries => .table origin (ofEntries origin entries)

/-- The items of a list as layers. -/
def ofItems (origin : Option Origin) : List Value → List Layer
  | [] => []
  | item :: rest => ofValue origin item :: ofItems origin rest

/-- The entries of a table as layers. -/
def ofEntries (origin : Option Origin) : List (String × Value) → List (String × Layer)
  | [] => []
  | (key, v) :: rest => (key, ofValue origin v) :: ofEntries origin rest

end

mutual

/-- Lays `upper` over the entry `key` of a table. A table is united with what is there, entry by
entry; anything else replaces it. -/
def lay (lower : Layer) (key : String) : Layer → Layer
  | .table _ changes =>
      lower.setEntry (Text.lower key) (layEntries ((lower.get? (Text.lower key)).getD empty) changes)
  | upper => lower.setEntry (Text.lower key) upper

/-- Lays entries over a layer, one after the other. -/
def layEntries (lower : Layer) : List (String × Layer) → Layer
  | [] => lower
  | (key, entry) :: rest => layEntries (lower.lay key entry) rest

end

/-- A step of a path. -/
inductive PathStep where
  | key (name : String)
  | index (position : Int)
deriving DecidableEq, Repr

/-- A character of a name in a path. -/
def isNameChar (c : Char) : Bool := c.isAlphanum || c = ' ' || c = '_' || c = '-'

/-- Passes over spaces and tabs. -/
def skipSpace (chars : List Char) : List Char := chars.dropWhile fun c => c = ' ' || c = '\t'

/-- Reads the steps that follow the first name of a path. Spaces may surround a position. The first
argument bounds the number of steps. -/
def pathSteps : Nat → List Char → Option (List PathStep)
  | _, [] => some []
  | 0, _ => none
  | fuel + 1, '.' :: rest =>
      match rest.takeWhile isNameChar with
      | [] => none
      | name => (pathSteps fuel (rest.dropWhile isNameChar)).map (.key (String.ofList name) :: ·)
  | fuel + 1, '[' :: rest => do
      let (negative, digits) :=
        match skipSpace rest with
        | '-' :: digits => (true, digits)
        | digits => (false, digits)
      let numeral := digits.takeWhile Char.isDigit
      let n : Int ← (String.ofList numeral).toNat?
      let position := if negative then -n else n
      if !fitsSigned position then none
      match skipSpace (digits.dropWhile Char.isDigit) with
      | ']' :: rest => do return .index position :: (← pathSteps fuel rest)
      | _ => none
  | _, _ => none

/-- Reads a key as a path: a name and the steps that follow it. A key that is no path is a name. -/
def pathOf (key : String) : String × List PathStep :=
  let chars := key.toList
  match chars.takeWhile isNameChar with
  | [] => (key, [])
  | name =>
      match pathSteps chars.length (chars.dropWhile isNameChar) with
      | some steps => (String.ofList name, steps)
      | none => (key, [])

/-- The place of a list that a position means; a negative one counts from the end. -/
def place? (length : Nat) (position : Int) : Option Nat :=
  if 0 ≤ position then some position.toNat
  else if position.natAbs ≤ length then some (length - position.natAbs)
  else none

/-- Applies a change to one place of a list, which is filled up with unset values to reach it. -/
def changePlace (items : List Layer) (place : Nat) (change : Layer → Layer) : List Layer :=
  match items, place with
  | [], 0 => [change unset]
  | [], place + 1 => unset :: changePlace [] place change
  | item :: rest, 0 => change item :: rest
  | item :: rest, place + 1 => item :: changePlace rest place change

/-- Lays a value over the place to which the steps lead. What stands in the way of a step is replaced
by an empty table or list without a source. -/
def layAt (lower : Layer) (upper : Layer) : List PathStep → Layer
  | [] => upper
  | [.key name] =>
      match lower with
      | .table .. => lower.lay name upper
      | _ => empty.lay name upper
  | .key name :: rest =>
      let key := Text.lower name
      lower.setEntry key (layAt ((lower.get? key).getD unset) upper rest)
  | .index position :: rest =>
      let (origin, items) :=
        match lower with
        | .list origin items => (origin, items)
        | _ => (none, [])
      match place? items.length position with
      | none => lower
      | some place => .list origin (changePlace items place fun item => layAt item upper rest)

/-- Lays one top-level entry over the settings, following its key as a path. -/
def layTop (lower : Layer) (key : String) (upper : Layer) : Layer :=
  match pathOf key with
  | (name, []) => lower.lay name upper
  | (name, steps) => layAt lower upper (.key name :: steps)

/-- Lays the top-level entries of a source over the settings. -/
def layAll (lower : Layer) (entries : List (String × Layer)) : Layer :=
  entries.foldl (fun layer (key, entry) => layer.layTop key entry) lower

end Layer

end FleetControl
