/-!
# Resource identifiers

The syntax of the addresses to which a client connects. An identifier is a lone `*`, a path, a lone
authority, or a scheme, an authority and a path with an optional query; a fragment is accepted and
dropped. The scheme may be empty, the authority behind it may not.
-/

namespace FleetControl.Network.Uri

/-- The longest identifier, in bytes. -/
def maxBytes : Nat := 65534

/-- The longest scheme. -/
def maxScheme : Nat := 64

/-- A character of a scheme. -/
def isSchemeChar (c : Char) : Bool := c.isAlphanum || c ∈ ['+', '-', '.', '~']

/-- A character of an authority, its delimiters and the percent sign apart. -/
def isAuthorityChar (c : Char) : Bool :=
  c.isAlphanum ||
    c ∈ ['!', '$', '&', '\'', '(', ')', '*', '+', ',', '-', '.', ';', '=', '_', '~']

/-- A character of a path. -/
def isPathChar (c : Char) : Bool :=
  0x7f ≤ c.toNat || (0x20 < c.toNat && c ∉ ['#', '<', '>', '?', '`'])

/-- A character of a query. -/
def isQueryChar (c : Char) : Bool :=
  0x7f ≤ c.toNat || (0x20 < c.toNat && c ∉ ['"', '#', '<', '>'])

/-- What an authority amounts to as far as it is read. The marks in front of an at sign belong to
the user, and colons inside brackets to the address, so neither count. -/
structure AuthorityScan where
  colons : Nat := 0
  percent : Bool := false
  opened : Bool := false
  closed : Bool := false
  /-- The last character is an at sign. -/
  afterAt : Bool := false

/-- The authority is complete: its brackets are closed, it has at most one port mark, and something
follows the user. -/
def AuthorityScan.isComplete (scan : AuthorityScan) : Bool :=
  scan.opened == scan.closed && scan.colons ≤ 1 && !scan.afterAt && !scan.percent

/-- How many colons may stand between brackets. -/
def maxColons : Nat := 8

/-- Reads one character of an authority. -/
def AuthorityScan.next? (scan : AuthorityScan) (c : Char) : Option AuthorityScan :=
  if c = ':' then
    if maxColons ≤ scan.colons then none
    else some { scan with colons := scan.colons + 1, afterAt := false }
  else if c = '[' then
    if scan.percent || scan.opened then none
    else some { scan with opened := true, afterAt := false }
  else if c = ']' then
    if !scan.opened || scan.closed then none
    else some { scan with closed := true, colons := 0, percent := false, afterAt := false }
  else if c = '@' then some { scan with colons := 0, percent := false, afterAt := true }
  else if c = '%' then some { scan with percent := true, afterAt := false }
  else if isAuthorityChar c then some { scan with afterAt := false }
  else none

/-- Whether a character ends the authority. -/
def endsAuthority (c : Char) : Bool := c = '/' || c = '?' || c = '#'

/-- An authority, which may be empty. -/
def isAuthority (chars : List Char) : Bool :=
  match chars.foldlM AuthorityScan.next? {} with
  | some scan => scan.isComplete
  | none => false

/-- A query, up to a fragment. -/
def isQuery (chars : List Char) : Bool := (chars.takeWhile (· ≠ '#')).all isQueryChar

/-- A path with an optional query. -/
def isPathAndQuery (chars : List Char) : Bool :=
  let path := chars.takeWhile fun c => c ≠ '?' ∧ c ≠ '#'
  path.all isPathChar &&
    (match chars.drop path.length with
    | '?' :: query => isQuery query
    | _ => true)

/-- Splits an identifier into its scheme and what follows the scheme mark. -/
def splitScheme? (chars : List Char) : Option (List Char × List Char) :=
  let scheme := chars.takeWhile isSchemeChar
  match chars.drop scheme.length with
  | ':' :: '/' :: '/' :: rest => some (scheme, rest)
  | _ => none

/-- Whether a text is a resource identifier. -/
def isUri (text : String) : Bool :=
  text.utf8ByteSize ≤ maxBytes &&
    match text.toList with
    | [] => false
    | '/' :: rest => isPathAndQuery ('/' :: rest)
    | chars =>
        match splitScheme? chars with
        | none => isAuthority chars && !chars.any endsAuthority
        | some (scheme, rest) =>
            let authority := rest.takeWhile fun c => !endsAuthority c
            scheme.length ≤ maxScheme && authority ≠ [] && isAuthority authority &&
              isPathAndQuery (rest.drop authority.length)

end FleetControl.Network.Uri
