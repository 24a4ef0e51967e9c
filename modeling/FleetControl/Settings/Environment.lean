import FleetControl.Settings.Layer
import FleetControl.Toml.Scalar

/-!
# Settings from the environment

A variable whose name begins with the fleet's mark sets one key: in the rest of its name, a double
underscore separates the names of a path. Its value is a truth value, an integer or a double if it
reads as one, and a text otherwise. An empty value sets nothing.
-/

namespace FleetControl

open FleetControl.Number FleetControl.Network

/-- Variables with their values. -/
abbrev Environment := List (String × String)

namespace Environment

/-- The value of a variable. -/
def find? (environment : Environment) (name : String) : Option String :=
  Keyed.find? environment name

/-- The mark at the start of the names of variables that set something, in lower case. -/
def mark : String := "fleet__"

/-- Replaces every double underscore by a dot, from the left. -/
def dotted : List Char → List Char
  | '_' :: '_' :: rest => '.' :: dotted rest
  | c :: rest => c :: dotted rest
  | [] => []

/-- The key that a variable sets. -/
def keyOf? (name : String) : Option String :=
  let chars := (Text.lower name).toList
  if mark.toList.isPrefixOf chars then some (String.ofList (dotted (chars.drop mark.length)))
  else none

/-- The integer with a sign and 64 bits that a text denotes in base ten. -/
def integerOf? (text : String) : Option Int :=
  let (negative, digits) := Toml.sign text.toList
  if digits = [] ∨ !digits.all Char.isDigit then none
  else
    let n : Int := IpAddress.numberOf 10 (IpAddress.spanDigits 10 digits).1
    let n := if negative then -n else n
    if fitsSigned n then some n else none

/-- The double that a text denotes: a decimal with an optional exponent, an infinity, or what is not
a number. -/
def doubleOf? (text : String) : Option Binary64 :=
  let (negative, rest) := Toml.sign text.toList
  let word := String.ofList (rest.map Text.lowerChar)
  if word ∈ ["inf", "infinity"] ∧ rest.all (·.toNat < 128) then some (.infinite negative)
  else if word = "nan" ∧ rest.all (·.toNat < 128) then some .nan
  else
    let (whole, rest) := IpAddress.spanDigits 10 rest
    let (fraction, rest) :=
      match rest with
      | '.' :: rest => IpAddress.spanDigits 10 rest
      | rest => ([], rest)
    if whole = [] ∧ fraction = [] then none
    else
      let value (scale : Int) : Binary64 :=
        .ofDecimal negative (IpAddress.numberOf 10 (whole ++ fraction))
          (scale - (fraction.length : Int))
      match rest with
      | [] => some (value 0)
      | c :: rest =>
          if c = 'e' ∨ c = 'E' then
            let (down, rest) := Toml.sign rest
            match IpAddress.spanDigits 10 rest with
            | ([], _) => none
            | (ds, []) =>
                let n : Int := IpAddress.numberOf 10 ds
                some (value (if down then -n else n))
            | _ => none
          else none

/-- The scalar that the value of a variable stands for. -/
def scalarOf (text : String) : Scalar :=
  match Text.lower text with
  | "true" => .bool true
  | "false" => .bool false
  | _ =>
      match integerOf? text with
      | some n => .int n
      | none =>
          match doubleOf? text with
          | some x => .float x
          | none => .text text

/-- The entries that the environment sets, in the order of the names of their variables. -/
def entries (environment : Environment) : List (String × Layer) :=
  (environment.mergeSort fun a b => a.1 ≤ b.1).filterMap fun (name, text) =>
    if text.isEmpty then none
    else (keyOf? name).map fun key => (key, .leaf (some .environment) (scalarOf text))

end Environment

end FleetControl
