import FleetControl.Number.Decimal

/-!
# Member addresses

A member is addressed by a URL `scheme://host:port`. The operations here only cut text: nothing is
checked, and every string has a host part.
-/

namespace FleetControl.Address

open FleetControl.Number

/-- The marker between a scheme and what follows it. -/
def schemeMark : List Char := [':', '/', '/']

/-- What follows the first scheme mark, if there is one. -/
def afterScheme? : List Char → Option (List Char)
  | ':' :: '/' :: '/' :: rest => some rest
  | _ :: rest => afterScheme? rest
  | [] => none

/-- The host part of an endpoint: what stands between the first scheme mark and the next slash. An
endpoint without a scheme mark is its own host part. -/
def hostChars (endpoint : List Char) : List Char :=
  match afterScheme? endpoint with
  | some rest => rest.takeWhile (· ≠ '/')
  | none => endpoint

/-- The host part of an endpoint, with its port if one is given. -/
def hostOf (endpoint : String) : String := String.ofList (hostChars endpoint.toList)

/-- What precedes the last colon; the whole text where there is none. -/
def dropPortChars (host : List Char) : List Char :=
  if ':' ∈ host then ((host.reverse.dropWhile (· ≠ ':')).drop 1).reverse else host

/-- The host name of an endpoint: its host part up to the last colon. -/
def nameOf (endpoint : String) : String :=
  String.ofList (dropPortChars (hostChars endpoint.toList))

/-- The URL of a scheme, a host and a port. -/
def url (scheme host : String) (port : Nat) : String :=
  scheme ++ "://" ++ host ++ ":" ++ decimal port

end FleetControl.Address
