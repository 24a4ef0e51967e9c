/-!
# Numeric addresses

The two written forms of a numeric address: four decimal octets separated by dots, and eight
hexadecimal groups separated by colons, of which one run of zero groups may be left out and the last
two may be written as octets. A reader takes what it can from the front of a text and gives the
rest.
-/

namespace FleetControl.Network.IpAddress

/-- The value of a digit in the given base. -/
def digit? (base : Nat) (c : Char) : Option Nat :=
  let value? : Option Nat :=
    if c.isDigit then some (c.toNat - '0'.toNat)
    else if 'a' ≤ c ∧ c ≤ 'f' then some (c.toNat - 'a'.toNat + 10)
    else if 'A' ≤ c ∧ c ≤ 'F' then some (c.toNat - 'A'.toNat + 10)
    else none
  value?.filter (· < base)

/-- The digits at the front of a text, and the rest. -/
def spanDigits (base : Nat) : List Char → List Nat × List Char
  | [] => ([], [])
  | c :: rest =>
      match digit? base c with
      | some d => let (digits, left) := spanDigits base rest; (d :: digits, left)
      | none => ([], c :: rest)

/-- The number that a list of digits stands for. -/
def numberOf (base : Nat) (digits : List Nat) : Nat := digits.foldl (fun n d => n * base + d) 0

/-- Reads one octet: one to three digits, without a leading zero, of a value below 256. -/
def octet? (chars : List Char) : Option (Nat × List Char) :=
  let (digits, rest) := spanDigits 10 chars
  let value := numberOf 10 digits
  if digits = [] ∨ 3 < digits.length ∨ 255 < value then none
  else if 1 < digits.length ∧ digits.head? = some 0 then none
  else some (value, rest)

/-- Reads one group: one to four hexadecimal digits. -/
def group? (chars : List Char) : Option (Nat × List Char) :=
  let (digits, rest) := spanDigits 16 chars
  if digits = [] ∨ 4 < digits.length then none else some (numberOf 16 digits, rest)

/-- Reads the given character. -/
def mark? (mark : Char) : List Char → Option (List Char)
  | [] => none
  | c :: rest => if c = mark then some rest else none

/-- Reads four octets separated by dots. -/
def octets? (chars : List Char) : Option (List Nat × List Char) := do
  let (a, rest) ← octet? chars
  let (b, rest) ← octet? (← mark? '.' rest)
  let (c, rest) ← octet? (← mark? '.' rest)
  let (d, rest) ← octet? (← mark? '.' rest)
  return ([a, b, c, d], rest)

/-- What was read of a row of groups. -/
structure GroupRow where
  groups : List Nat
  /-- The row ends with octets. -/
  octets : Bool
  rest : List Char

/-- Reads up to `limit` groups separated by colons. `first` tells that no colon precedes the next
group. Octets may stand for the last two groups. -/
def groupRow : Nat → Bool → List Char → GroupRow
  | 0, _, chars => ⟨[], false, chars⟩
  | limit + 1, first, chars =>
      match if first then some chars else mark? ':' chars with
      | none => ⟨[], false, chars⟩
      | some start =>
          match if limit = 0 then none else octets? start with
          | some ([a, b, c, d], rest) => ⟨[a * 256 + b, c * 256 + d], true, rest⟩
          | _ =>
              match group? start with
              | none => ⟨[], false, chars⟩
              | some (g, rest) =>
                  let row := groupRow limit false rest
                  { row with groups := g :: row.groups }

/-- Reads eight groups, or fewer around a double colon. -/
def groups? (chars : List Char) : Option (List Nat × List Char) := do
  let head := groupRow 8 true chars
  if head.groups.length = 8 then return (head.groups, head.rest)
  if head.octets then none
  let rest ← mark? ':' (← mark? ':' head.rest)
  let tail := groupRow (7 - head.groups.length) true rest
  let zeros := List.replicate (8 - head.groups.length - tail.groups.length) 0
  return (head.groups ++ zeros ++ tail.groups, tail.rest)

/-- The bytes of the numeric address that a text is, four or sixteen of them. -/
def bytes? (text : String) : Option (List Nat) :=
  match octets? text.toList with
  | some (octets, []) => some octets
  | some _ => none
  | none =>
      match groups? text.toList with
      | some (groups, []) => some (groups.flatMap fun g => [g / 256, g % 256])
      | _ => none

end FleetControl.Network.IpAddress
