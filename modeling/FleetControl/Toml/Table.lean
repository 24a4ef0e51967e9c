import FleetControl.Keyed
import FleetControl.Value

/-!
# Tables under construction

A settings file builds its tables piece by piece: by headers, by headers of elements of lists of
tables, and by dotted keys. A table may be defined by one header only, a table made by dotted keys
may be extended by dotted keys only, and no key may be given a value twice.
-/

namespace FleetControl.Toml

/-- How a table came to be. -/
inductive TableKind where
  /-- By a header that leads through it. -/
  | passed
  /-- By its own header. -/
  | defined
  /-- By a dotted key. -/
  | dotted
deriving DecidableEq, Repr

/-- What stands under a key. -/
inductive Item where
  | value (v : Value)
  | table (kind : TableKind) (entries : List (String × Item))
  | tables (elements : List (List (String × Item)))
deriving Inhabited

/-- The entries of a table under construction. -/
abbrev Entries := Keyed String Item

namespace Entries

/-- Applies a change to the last element of a list of tables. -/
def changeLast (elements : List Entries) (change : Entries → Option Entries) :
    Option (List Entries) :=
  match elements with
  | [] => none
  | [last] => (change last).map fun changed => [changed]
  | first :: rest => (changeLast rest change).map (first :: ·)

/-- Applies a change to the table to which a header leads; missing tables on the way are made. -/
def atHeader (path : List String) (change : Entries → Option Entries) (entries : Entries) :
    Option Entries :=
  match path with
  | [] => change entries
  | key :: rest =>
      match Keyed.find? entries key with
      | none => do return Keyed.set entries key (.table .passed (← atHeader rest change []))
      | some (.value _) => none
      | some (.table kind inner) => do
          return Keyed.set entries key (.table kind (← atHeader rest change inner))
      | some (.tables elements) => do
          return Keyed.set entries key (.tables (← changeLast elements (atHeader rest change)))

/-- Opens the table of a header. -/
def define (key : String) (entries : Entries) : Option Entries :=
  match Keyed.find? entries key with
  | none => some (Keyed.set entries key (.table .defined []))
  | some (.table .passed inner) => some (Keyed.set entries key (.table .defined inner))
  | some _ => none

/-- Opens a new element of a list of tables. -/
def addElement (key : String) (entries : Entries) : Option Entries :=
  match Keyed.find? entries key with
  | none => some (Keyed.set entries key (.tables [[]]))
  | some (.tables elements) => some (Keyed.set entries key (.tables (elements ++ [[]])))
  | some _ => none

/-- Gives a dotted key a value. `fits` tells that the table may take plain values here: it is the
one in which the dotted key begins, or one made by dotted keys. -/
def assign (path : List String) (key : String) (value : Value) (fits : Bool) (entries : Entries) :
    Option Entries :=
  match path with
  | [] =>
      if fits ∧ (Keyed.find? entries key).isNone then some (Keyed.set entries key (.value value)) else none
  | first :: rest =>
      match Keyed.find? entries first with
      | none => do return Keyed.set entries first (.table .dotted (← assign rest key value true []))
      | some (.value _) => none
      | some (.table .defined _) => none
      | some (.table kind inner) => do
          return Keyed.set entries first
            (.table kind (← assign rest key value (kind = .dotted) inner))
      | some (.tables elements) => do
          return Keyed.set entries first
            (.tables (← changeLast elements (assign rest key value false)))

end Entries

mutual

/-- An item as plain data. -/
def Item.toValue : Item → Value
  | .value v => v
  | .table _ entries => .table (Item.entriesToValues entries)
  | .tables elements => .list (Item.elementsToValues elements)

/-- The entries of a table as plain data. -/
def Item.entriesToValues : List (String × Item) → List (String × Value)
  | [] => []
  | (key, item) :: rest => (key, item.toValue) :: Item.entriesToValues rest

/-- The elements of a list of tables as plain data. -/
def Item.elementsToValues : List (List (String × Item)) → List Value
  | [] => []
  | entries :: rest => .table (Item.entriesToValues entries) :: Item.elementsToValues rest

end

end FleetControl.Toml
