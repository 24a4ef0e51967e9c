import FleetControl.Number.Binary64
import FleetControl.Number.Word

/-!
# Plain data

Trees of nulls, booleans, numbers, texts, lists and tables: the form in which settings and member
configurations are exchanged. Reading a typed value from a tree is strict. A field must have
exactly its type and fit its range, an unknown entry of a table is ignored, and a record may also be
given as the list of its fields in declaration order, whose last fields may be missing.
-/

namespace FleetControl

open FleetControl.Number

/-- A tree of plain data. The entries of a table have distinct names. -/
inductive Value where
  | null
  | bool (b : Bool)
  | int (n : Int)
  | float (x : Binary64)
  | text (s : String)
  | list (items : List Value)
  | table (entries : List (String × Value))
deriving Inhabited

namespace Value

/-- The entry of a table. -/
def get? (v : Value) (name : String) : Option Value :=
  match v with
  | .table entries => (entries.find? fun entry => entry.1 = name).map (·.2)
  | _ => none

/-- The entry of a table; null where there is none. -/
def get (v : Value) (name : String) : Value := (v.get? name).getD .null

/-- The truth value, if it is one. -/
def bool? : Value → Option Bool
  | .bool b => some b
  | _ => none

/-- The text, if it is one. -/
def text? : Value → Option String
  | .text s => some s
  | _ => none

/-- The integer, if it is one. -/
def int? : Value → Option Int
  | .int n => some n
  | _ => none

/-- The integer, if it is a word of the given number of bits. -/
def word? (bits : Nat) : Value → Option Nat
  | .int n => if 0 ≤ n ∧ n < wordCount bits then some n.toNat else none
  | _ => none

/-- The texts, if the value is a list of texts. -/
def texts? : Value → Option (List String)
  | .list items => items.mapM text?
  | _ => none

/-- The fields of a record with the given field names: from a table by name, from a list by
position. A list with more items than the record has fields is no record. -/
def record? (names : List String) : Value → Option (List (Option Value))
  | .table entries => some (names.map (Value.table entries).get?)
  | .list items =>
      if names.length < items.length then none
      else some (items.map some ++ List.replicate (names.length - items.length) none)
  | _ => none

/-- A field that may be missing. A field that is present must be readable. -/
def optional {α : Type} (read : Value → Option α) (default : α) : Option Value → Option α
  | none => some default
  | some v => read v

/-- A field that must be present. -/
def required {α : Type} (read : Value → Option α) : Option Value → Option α
  | none => none
  | some v => read v

/-- A list of texts as plain data. -/
def ofTexts (texts : List String) : Value := .list (texts.map .text)

/-- A natural number as plain data. -/
def ofNat (n : Nat) : Value := .int n

/-- Lays the entries of one table over those of another. An entry of the same name is replaced. -/
def overlay (base patch : Value) : Value :=
  match base, patch with
  | .table entries, .table changes =>
      .table ((entries.filter fun entry => changes.all (·.1 ≠ entry.1)) ++ changes)
  | _, _ => base

end Value

end FleetControl
