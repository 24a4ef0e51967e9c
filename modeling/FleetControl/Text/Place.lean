import FleetControl.Number.Decimal

/-!
# Places in a text

Where something in a text went wrong, for a reader of the text: the line, the column, and the line
itself with a mark below the place.
-/

namespace FleetControl.Text

open FleetControl.Number

/-- A place in a text. Lines and columns count from one. -/
structure Place where
  line : Nat
  column : Nat
  /-- The line on which the place is. -/
  content : String
deriving DecidableEq, Repr, Inhabited

namespace Place

/-- The last line of a text. -/
def lastLine (chars : List Char) : List Char := (chars.reverse.takeWhile (· ≠ '\n')).reverse

/-- The place before the last `left` characters of a text. The end of a text belongs to the line of
its last character, even if that is a line feed. Columns count characters, except that a character
outside ASCII has the column of its first byte. -/
def before (text : List Char) (left : Nat) : Place :=
  let passed := text.take (text.length - left)
  let earlier := if left = 0 then passed.dropLast else passed
  let front := lastLine earlier
  let back := (text.drop earlier.length).takeWhile (· ≠ '\n')
  let column :=
    match text.drop passed.length with
    | [] => front.length + (passed.length - earlier.length)
    | c :: _ => if c.toNat < 0x80 then front.length else (String.ofList front).utf8ByteSize
  { line := earlier.count '\n' + 1, column := column + 1, content := String.ofList (front ++ back) }

/-- The name of a place, and its line with a mark below the place. -/
def shown (place : Place) : String :=
  let number := decimal place.line
  let margin := String.ofList (List.replicate number.length ' ') ++ " |"
  "line " ++ number ++ ", column " ++ decimal place.column ++ "\n" ++
    margin ++ "\n" ++
    number ++ " | " ++ place.content ++ "\n" ++
    margin ++ " " ++ String.ofList (List.replicate (place.column - 1) ' ') ++ "^"

end Place

end FleetControl.Text
