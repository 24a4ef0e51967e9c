import FleetControl.Network.IpAddress

/-!
# Host names

The names against which the certificate of a server can be verified: names of the domain system and
numeric addresses. A domain name is a row of labels separated by dots. A label has at most 63
letters, digits, underscores and hyphens, and no hyphen at either end; a dot may follow the last
label. The last label, and a label that a dot ends the name after, must not consist of digits alone.
-/

namespace FleetControl.Network.HostName

/-- The longest domain name. -/
def maxLength : Nat := 253

/-- The longest label. -/
def maxLabel : Nat := 63

/-- A letter, a digit or an underscore: what a label may begin and end with. -/
def isWordChar (c : Char) : Bool := c.isAlphanum || c = '_'

/-- A label of a domain name. -/
def isLabel (label : List Char) : Bool :=
  label.length ≤ maxLabel && label.all (fun c => isWordChar c || c = '-') &&
    label.head?.any isWordChar && label.getLast?.any isWordChar

/-- A label of digits alone. -/
def isNumeric (label : List Char) : Bool := label.all Char.isDigit

/-- Splits characters at dots. -/
def labels (chars : List Char) : List (List Char) := chars.splitOn '.'

/-- A name of the domain system. -/
def isDomainName (name : String) : Bool :=
  let parts := labels name.toList
  let named := if parts.getLast? = some [] then parts.dropLast else parts
  name.utf8ByteSize ≤ maxLength && named.all isLabel &&
    (match named.getLast? with
    | some last => !isNumeric last
    | none => false)

/-- A name for which the certificate of a server can be verified. -/
def isServerName (name : String) : Bool :=
  isDomainName name || (IpAddress.bytes? name).isSome

end FleetControl.Network.HostName
