/-!
# Paths of the operating system

To the operating system a path is a row of bytes, which need not spell a text. Where a path has to
be shown as a text, what cannot be read in it is replaced, so that different paths may look the
same.
-/

namespace FleetControl

/-- A path as the operating system has it. -/
structure OsPath where
  bytes : List UInt8
deriving DecidableEq, Repr, Inhabited

namespace OsPath

/-- The path that a text spells. -/
def ofString (text : String) : OsPath := ⟨text.toList.flatMap String.utf8EncodeChar⟩

/-- There is nothing in the path. -/
def isEmpty (path : OsPath) : Bool := path.bytes.isEmpty

/-- Bounds of the bytes that are to follow the first one of a character, in order. There are none
where no character of several bytes begins with this one. -/
def followers (first : UInt8) : List (UInt8 × UInt8) :=
  let any : UInt8 × UInt8 := (0x80, 0xBF)
  if 0xC2 ≤ first ∧ first ≤ 0xDF then [any]
  else if first = 0xE0 then [(0xA0, 0xBF), any]
  else if first = 0xED then [(0x80, 0x9F), any]
  else if 0xE1 ≤ first ∧ first ≤ 0xEF then [any, any]
  else if first = 0xF0 then [(0x90, 0xBF), any, any]
  else if 0xF1 ≤ first ∧ first ≤ 0xF3 then [any, any, any]
  else if first = 0xF4 then [(0x80, 0x8F), any, any]
  else []

/-- How many bytes are within their bounds, up to the first one that is not. -/
def countWithin : List (UInt8 × UInt8) → List UInt8 → Nat
  | (low, high) :: bounds, byte :: bytes =>
      if low ≤ byte ∧ byte ≤ high then countWithin bounds bytes + 1 else 0
  | _, _ => 0

/-- The characters that bytes are shown as. Where no character can be read, the first byte is shown
as one replacement character, together with those that would go on with a character that it
begins. -/
def shown : List UInt8 → List Char
  | [] => []
  | first :: rest =>
      match (first :: rest).toByteArray.utf8DecodeChar? 0 with
      | some char => char :: shown (rest.drop (char.utf8Size - 1))
      | none => '\uFFFD' :: shown (rest.drop (countWithin (followers first) rest))
termination_by bytes => bytes.length

/-- The text that a path is shown as. -/
def display (path : OsPath) : String := String.ofList (shown path.bytes)

end OsPath

end FleetControl
