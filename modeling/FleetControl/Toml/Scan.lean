/-!
# Reading characters

A reader takes what it recognises from the front of a list of characters and gives the rest. If it
cannot go on, it gives the characters that are left at that place. Here are the readers for the parts
of a settings file that carry no data: white space, line ends and comments.
-/

namespace FleetControl.Toml

/-- What comes of reading: a result, or the characters left where reading could not go on. -/
abbrev Reading (α : Type) := Except (List Char) α

/-- A result that may be missing, which counts as a fault at the given place. -/
def orStuck {α : Type} (place : List Char) (found : Option α) : Reading α :=
  found.elim (.error place) .ok

/-- A space or a tab. -/
def isSpace (c : Char) : Bool := c = ' ' || c = '\t'

/-- Anything but control characters; the tab is allowed. -/
def isPrintable (c : Char) : Bool := c = '\t' || (0x20 ≤ c.toNat && c.toNat ≠ 0x7f)

/-- Passes over spaces and tabs. -/
def skipSpace (chars : List Char) : List Char := chars.dropWhile isSpace

/-- Passes over the given text. -/
def literal (text : String) (chars : List Char) : Reading (List Char) :=
  if text.toList.isPrefixOf chars then .ok (chars.drop text.length) else .error chars

/-- Passes over one line end. -/
def lineEnd? : List Char → Option (List Char)
  | '\n' :: rest => some rest
  | '\r' :: '\n' :: rest => some rest
  | _ => none

/-- Passes over a comment, if there is one, up to the end of its line. -/
def skipComment : List Char → List Char
  | '#' :: rest => rest.dropWhile isPrintable
  | chars => chars

/-- Passes over the rest of a line that carries no more data: spaces, a comment and the line end or
the end of the text. -/
def restOfLine (chars : List Char) : Reading (List Char) :=
  match skipComment (skipSpace chars) with
  | [] => .ok []
  | rest => orStuck rest (lineEnd? rest)

/-- Passes over spaces, comments and line ends. A comment must be closed by a line end. The first
argument bounds the number of lines. -/
def skipLines : Nat → List Char → List Char
  | 0, chars => chars
  | fuel + 1, chars =>
      let start := skipSpace chars
      match lineEnd? (skipComment start) with
      | some rest => skipLines fuel rest
      | none => start

/-- Passes over spaces, comments and line ends. -/
def skipBlank (chars : List Char) : List Char := skipLines (chars.length + 1) chars

/-- Passes over spaces and line ends. -/
def skipFold (chars : List Char) : List Char :=
  match chars with
  | [] => []
  | c :: rest =>
      if isSpace c ∨ c = '\n' then skipFold rest
      else
        match c, rest with
        | '\r', '\n' :: rest => skipFold rest
        | _, _ => c :: rest

end FleetControl.Toml
