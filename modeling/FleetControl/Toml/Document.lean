import FleetControl.Text.Place
import FleetControl.Toml.Key
import FleetControl.Toml.Scalar
import FleetControl.Toml.Table

/-!
# Settings files

A settings file is a row of lines: blank ones, headers of tables and of elements of lists of tables,
and assignments of values to dotted keys. A value is a text, a number, a truth value, a list or a
table on one line. `Toml.read` gives the table that a file stands for.
-/

namespace FleetControl.Toml

/-- The entries of a table on one line. -/
def entriesOf? (assignments : List (List String × Value)) : Option Entries :=
  assignments.foldlM (fun entries (path, v) =>
    entries.assign path.dropLast (path.getLastD "") v true) ([] : Entries)

mutual

/-- Reads a value. The first argument bounds the number of steps, the second the nesting that is
left. -/
def value : Nat → Nat → List Char → Reading (Value × List Char)
  | 0, _, chars => .error chars
  | fuel + 1, depth, chars =>
      match chars with
      | '[' :: rest =>
          match depth with
          | 0 => .error chars
          | depth + 1 => do
              let (items, rest) ← listItems fuel depth (skipBlank rest)
              return (.list items, rest)
      | '{' :: start =>
          match depth with
          | 0 => .error chars
          | depth + 1 => do
              let (assignments, rest) ← tableItems fuel depth start
              let entries ← orStuck start (entriesOf? assignments)
              return (.table (Item.entriesToValues entries), ← literal "\x7d" rest)
      | c :: _ =>
          if c = '"' ∨ c = '\'' then (text chars).map fun (t, rest) => (.text t, rest)
          else if c = 't' then (literal "true" chars).map (.bool true, ·)
          else if c = 'f' then (literal "false" chars).map (.bool false, ·)
          else number chars
      | [] => .error []

/-- Reads the items of a list up to its closing bracket. A comma may follow the last item. -/
def listItems : Nat → Nat → List Char → Reading (List Value × List Char)
  | 0, _, chars => .error chars
  | fuel + 1, depth, chars =>
      match chars with
      | ']' :: rest => .ok ([], rest)
      | _ => do
          let (item, rest) ← value fuel depth chars
          match skipBlank rest with
          | ',' :: rest =>
              let (items, rest) ← listItems fuel depth (skipBlank rest)
              return (item :: items, rest)
          | ']' :: rest => return ([item], rest)
          | rest => .error rest

/-- Reads the assignments of a table on one line, up to what cannot belong to another one. -/
def tableItems : Nat → Nat → List Char → Reading (List (List String × Value) × List Char)
  | 0, _, chars => .error chars
  | fuel + 1, depth, chars =>
      if beginsKey (skipSpace chars) then do
        let (path, rest) ← dottedKey chars
        let (v, rest) ← value fuel depth (skipSpace (← literal "=" rest))
        match skipSpace rest with
        | ',' :: after =>
            if beginsKey (skipSpace after) then
              let (others, rest) ← tableItems fuel depth after
              return ((path, v) :: others, rest)
            else return ([(path, v)], ',' :: after)
        | rest => return ([(path, v)], rest)
      else return ([], skipSpace chars)

end

/-- A document as far as it is read: its tables, and the path of the table that assignments go to. -/
structure Document where
  root : Entries := []
  current : List String := []

namespace Document

/-- Opens the table of a header. -/
def openTable (document : Document) (path : List String) : Option Document := do
  let root ← document.root.atHeader path.dropLast (Entries.define (path.getLastD ""))
  return { root, current := path }

/-- Opens a new element of the list of tables of a header. -/
def openElement (document : Document) (path : List String) : Option Document := do
  let root ← document.root.atHeader path.dropLast (Entries.addElement (path.getLastD ""))
  return { root, current := path }

/-- Assigns a value in the current table. -/
def assign (document : Document) (path : List String) (v : Value) : Option Document := do
  let root ← document.root.atHeader document.current
    (Entries.assign path.dropLast (path.getLastD "") v true)
  return { document with root }

/-- Reads one line that is neither blank nor a comment. A lone bracket at the end of the text begins
no header. -/
def line (document : Document) (chars : List Char) : Reading (Document × List Char) :=
  match chars with
  | ['['] => .error chars
  | '[' :: '[' :: rest => do
      let (path, rest) ← dottedKey rest
      let rest ← restOfLine (← literal "]]" rest)
      return (← orStuck chars (document.openElement path), rest)
  | '[' :: rest => do
      let (path, rest) ← dottedKey rest
      let rest ← restOfLine (← literal "]" rest)
      return (← orStuck chars (document.openTable path), rest)
  | _ => do
      let (path, rest) ← dottedKey chars
      let start := skipSpace (← literal "=" rest)
      let (v, rest) ← value (4 * start.length + 4) (depthLimit - 1) start
      let rest ← restOfLine rest
      return (← orStuck chars (document.assign path v), rest)

/-- Reads all lines. The first argument bounds their number. -/
def lines : Nat → Document → List Char → Reading Document
  | 0, _, chars => .error chars
  | fuel + 1, document, chars =>
      match skipSpace chars with
      | [] => .ok document
      | '#' :: rest => do lines fuel document (← restOfLine ('#' :: rest))
      | start =>
          match lineEnd? start with
          | some rest => lines fuel document rest
          | none => do
              let (document, rest) ← document.line start
              lines fuel document rest

end Document

/-- The table that a settings file stands for, or the place up to which the file follows the grammar.
A byte order mark at its start is passed over. -/
def read (text : String) : Except Text.Place (List (String × Value)) :=
  let body :=
    match text.toList with
    | '\ufeff' :: rest => rest
    | chars => chars
  match Document.lines (body.length + 2) {} body with
  | .ok document => .ok (Item.entriesToValues document.root)
  | .error left => .error (.before text.toList left.length)

end FleetControl.Toml
