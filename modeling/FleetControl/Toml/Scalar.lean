import FleetControl.Network.IpAddress
import FleetControl.Number.Decimal
import FleetControl.Toml.Scan
import FleetControl.Value

/-!
# Numbers and times in settings files

Integers in four bases, doubles, and dates and times, which count as the text of their standard
form. Digits may be separated by single underscores.
-/

namespace FleetControl.Toml

open FleetControl.Network FleetControl.Number

/-- Reads digits of a base, single underscores between them allowed. An underscore that no digit
follows is a fault. -/
def digits (base : Nat) (chars : List Char) : Reading (List Nat × List Char) :=
  let rec go : List Char → Reading (List Nat × List Char)
    | [] => .ok ([], [])
    | '_' :: c :: rest =>
        match IpAddress.digit? base c with
        | some d => (go rest).map fun (ds, left) => (d :: ds, left)
        | none => .error (c :: rest)
    | c :: rest =>
        match IpAddress.digit? base c with
        | some d => (go rest).map fun (ds, left) => (d :: ds, left)
        | none => if c = '_' then .error rest else .ok ([], c :: rest)
  match chars with
  | '_' :: _ => .error chars
  | _ =>
      match go chars with
      | .ok ([], _) => .error chars
      | read => read

/-- Reads a sign. -/
def sign : List Char → Bool × List Char
  | '-' :: rest => (true, rest)
  | '+' :: rest => (false, rest)
  | chars => (false, chars)

/-- Reads decimal digits without a leading zero, or a lone zero. -/
def wholeDigits (chars : List Char) : Reading (List Nat × List Char) :=
  match chars with
  | '0' :: rest => .ok ([0], rest)
  | _ => digits 10 chars

/-- Reads an exponent, if there is one, and nought if there is none. -/
def exponent (chars : List Char) : Reading (Int × List Char) :=
  match chars with
  | c :: rest =>
      if c = 'e' ∨ c = 'E' then
        let (negative, rest) := sign rest
        (digits 10 rest).map fun (ds, left) =>
          let n : Int := IpAddress.numberOf 10 ds
          (if negative then -n else n, left)
      else .ok (0, chars)
  | [] => .ok (0, [])

/-- An integer within the range of 64-bit words with a sign. -/
def wordOf? (n : Int) : Option Value := if fitsSigned n then some (.int n) else none

/-- Reads an integer in another base, after its mark. The first characters are those of the whole
number. -/
def basedInteger (base : Nat) (chars rest : List Char) : Reading (Value × List Char) := do
  let (ds, rest) ← digits base rest
  return (← orStuck chars (wordOf? (IpAddress.numberOf base ds)), rest)

/-- A double from its digits before and after the point, scaled by a power of ten. One above the
greatest double is refused. -/
def doubleOf? (negative : Bool) (whole fraction : List Nat) (scale : Int) : Option Value :=
  let x := Binary64.ofDecimal negative (IpAddress.numberOf 10 (whole ++ fraction))
    (scale - (fraction.length : Int))
  if x = .infinite false then none else some (.float x)

/-- Reads a double with digits, or an integer in base ten. -/
def decimalNumber (chars : List Char) : Reading (Value × List Char) := do
  let (negative, rest) := sign chars
  let (whole, rest) ← wholeDigits rest
  match rest with
  | '.' :: after =>
      let (fraction, rest) ← digits 10 after
      let (scale, rest) ← exponent rest
      return (← orStuck chars (doubleOf? negative whole fraction scale), rest)
  | c :: _ =>
      if c = 'e' ∨ c = 'E' then
        let (scale, rest) ← exponent rest
        return (← orStuck chars (doubleOf? negative whole [] scale), rest)
      else return (← orStuck chars (wordOf? (signed negative whole)), rest)
  | [] => return (← orStuck chars (wordOf? (signed negative whole)), rest)
where
  /-- The integer of a sign and digits. -/
  signed (negative : Bool) (ds : List Nat) : Int :=
    if negative then -(IpAddress.numberOf 10 ds : Int) else IpAddress.numberOf 10 ds

/-- Reads an infinity or what is not a number. -/
def specialDouble? (chars : List Char) : Option (Value × List Char) :=
  let (negative, rest) := sign chars
  match rest with
  | 'i' :: 'n' :: 'f' :: rest => some (.float (.infinite negative), rest)
  | 'n' :: 'a' :: 'n' :: rest => some (.float .nan, rest)
  | _ => none

/-- Reads exactly `count` decimal digits. -/
def fixedDigits? (count : Nat) (chars : List Char) : Option (Nat × List Char) :=
  let front := chars.take count
  if front.length = count ∧ front.all Char.isDigit then
    some (IpAddress.numberOf 10 (IpAddress.spanDigits 10 front).1, chars.drop count)
  else none

/-- Reads two digits of a value from `low` to `high`. -/
def bounded (low high : Nat) (chars : List Char) : Reading (Nat × List Char) :=
  orStuck chars ((fixedDigits? 2 chars).filter fun (n, _) => low ≤ n ∧ n ≤ high)

/-- The number of days of a month. -/
def daysOf (year month : Nat) : Nat :=
  if month = 2 then
    if year % 4 = 0 ∧ (year % 100 ≠ 0 ∨ year % 400 = 0) then 29 else 28
  else if month ∈ [4, 6, 9, 11] then 30
  else 31

/-- Reads a date and writes it in its standard form. What begins with four digits and a hyphen must
be one. -/
def date (chars : List Char) : Reading (Option (String × List Char)) :=
  match fixedDigits? 4 chars with
  | some (year, '-' :: rest) => do
      let (month, rest) ← bounded 1 12 rest
      let (day, rest) ← bounded 1 (daysOf year month) (← literal "-" rest)
      return some
        (zeroPadded 4 year ++ "-" ++ zeroPadded 2 month ++ "-" ++ zeroPadded 2 day, rest)
  | _ => return none

/-- The standard form of the digits of a fraction of a second: at most nine, no trailing zeros. -/
def fractionText (ds : List Nat) : String :=
  match (((ds.take 9).reverse.dropWhile (· = 0)).reverse).map Nat.digitChar with
  | [] => ""
  | digits => "." ++ String.ofList digits

/-- Reads a time of day and writes it in its standard form. What begins with an hour and a colon
must be one. -/
def time (chars : List Char) : Reading (Option (String × List Char)) :=
  match bounded 0 23 chars with
  | .ok (hour, ':' :: rest) => do
      let (minute, rest) ← bounded 0 59 rest
      let (second, rest) ← bounded 0 60 (← literal ":" rest)
      let whole := zeroPadded 2 hour ++ ":" ++ zeroPadded 2 minute ++ ":" ++ zeroPadded 2 second
      match rest with
      | '.' :: after =>
          match IpAddress.spanDigits 10 after with
          | ([], _) => return some (whole, rest)
          | (ds, left) => return some (whole ++ fractionText ds, left)
      | _ => return some (whole, rest)
  | _ => return none

/-- Reads an offset from universal time and writes it in its standard form; none is written if there
is none. -/
def offset (chars : List Char) : Reading (String × List Char) :=
  match chars with
  | 'Z' :: rest => return ("Z", rest)
  | 'z' :: rest => return ("Z", rest)
  | mark :: rest =>
      if mark = '+' ∨ mark = '-' then do
        let (hour, rest) ← bounded 0 23 rest
        let (minute, rest) ← bounded 0 59 (← literal ":" rest)
        let shown := if hour = 0 ∧ minute = 0 then '+' else mark
        return (shown.toString ++ zeroPadded 2 hour ++ ":" ++ zeroPadded 2 minute, rest)
      else return ("", chars)
  | [] => return ("", [])

/-- Reads a date, a time, or both with an optional offset. -/
def moment (chars : List Char) : Reading (Option (String × List Char)) := do
  match ← date chars with
  | none => time chars
  | some (date, rest) =>
      match rest with
      | mark :: after =>
          if mark ≠ 'T' ∧ mark ≠ 't' ∧ mark ≠ ' ' then return some (date, rest)
          else
            match ← time after with
            | none => return some (date, rest)
            | some (time, rest) =>
                let (offset, rest) ← offset rest
                return some (date ++ "T" ++ time ++ offset, rest)
      | [] => return some (date, rest)

/-- Reads a number or a time. -/
def number (chars : List Char) : Reading (Value × List Char) := do
  match ← moment chars with
  | some (text, rest) => return (.text text, rest)
  | none =>
      match specialDouble? chars with
      | some read => return read
      | none =>
          match chars with
          | '0' :: 'x' :: rest => basedInteger 16 chars rest
          | '0' :: 'o' :: rest => basedInteger 8 chars rest
          | '0' :: 'b' :: rest => basedInteger 2 chars rest
          | _ => decimalNumber chars

end FleetControl.Toml
