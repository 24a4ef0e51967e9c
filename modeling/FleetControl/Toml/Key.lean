import FleetControl.Toml.Text

/-!
# Keys of settings files

A key is a bare word or a quoted text; a dotted key is a row of keys separated by dots.
-/

namespace FleetControl.Toml

/-- A character of a bare key. -/
def isBare (c : Char) : Bool := c.isAlphanum || c = '-' || c = '_'

/-- A key begins here. -/
def beginsKey : List Char → Bool
  | c :: _ => isBare c || c = '"' || c = '\''
  | [] => false

/-- Reads one key. -/
def key (chars : List Char) : Reading (String × List Char) :=
  match chars.takeWhile isBare with
  | [] => lineQuoted chars
  | word => .ok (String.ofList word, chars.dropWhile isBare)

/-- What the length of a row of keys and the nesting of values must stay below. -/
def depthLimit : Nat := 80

/-- Reads a row of keys separated by dots, with spaces around every key. A dot that no key follows
does not belong to the row. The first argument bounds the length of the row. -/
def keys : Nat → List Char → Reading (List String × List Char)
  | 0, chars => .error chars
  | fuel + 1, chars => do
      let (first, rest) ← key (skipSpace chars)
      match skipSpace rest with
      | '.' :: after =>
          if beginsKey (skipSpace after) then
            let (others, rest) ← keys fuel after
            return (first :: others, rest)
          else return ([first], '.' :: after)
      | rest => return ([first], rest)

/-- Reads a dotted key. -/
def dottedKey (chars : List Char) : Reading (List String × List Char) := do
  let (path, rest) ← keys (chars.length + 1) chars
  if path.length < depthLimit then return (path, rest) else .error chars

end FleetControl.Toml
