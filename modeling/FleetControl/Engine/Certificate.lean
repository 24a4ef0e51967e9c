import FleetControl.Network.IpAddress
import FleetControl.Number.Decimal

/-!
# Certificates and keys

Certificates are symbolic: one says whom it is for, who signed it, and nothing that is random apart
from the number of its key pair. Key pairs are numbered in the order in which they are drawn, so two
of them are the same exactly if their numbers are.

A certificate and a private key are kept in text form, a block between a first and a last line that
name its kind. A text may hold several blocks and anything between them.
-/

namespace FleetControl.Engine

open FleetControl.Network FleetControl.Number

/-- A name that a certificate vouches for. -/
inductive SubjectName where
  | domain (name : String)
  | address (bytes : List Nat)
deriving DecidableEq, Repr, Inhabited

/-- The name under which a host is certified. A host that is a numeric address is certified as one. -/
def SubjectName.ofHost (host : String) : SubjectName :=
  match IpAddress.bytes? host with
  | some bytes => .address bytes
  | none => .domain host

/-- A certificate. -/
structure Certificate where
  /-- The number of the certified key pair. -/
  key : Nat
  subject : String
  issuer : String
  /-- The number of the key pair that signed it. -/
  signer : Nat
  /-- It may sign others. -/
  authority : Bool
  names : List SubjectName
deriving DecidableEq, Repr, Inhabited

/-- A block of a text. -/
structure Block where
  kind : String
  body : String
deriving DecidableEq, Repr

namespace Block

/-- The line that opens a block. -/
def opening (kind : String) : String := "-----BEGIN " ++ kind ++ "-----"

/-- The line that closes a block. -/
def closing (kind : String) : String := "-----END " ++ kind ++ "-----"

/-- The text of a block. -/
def text (block : Block) : String :=
  opening block.kind ++ "\n" ++ block.body ++ "\n" ++ closing block.kind ++ "\n"

/-- The kind that an opening line names. -/
def kindOf? (line : List Char) : Option (List Char) :=
  let lead := "-----BEGIN ".toList
  if lead.isPrefixOf line then
    let rest := line.drop lead.length
    if "-----".toList.isSuffixOf rest then some (rest.take (rest.length - 5)) else none
  else none

/-- The lines of a text, without white space at their ends. -/
def lines (text : String) : List (List Char) :=
  (text.toList.splitOn '\n').map fun line =>
    ((line.dropWhile isSpace).reverse.dropWhile isSpace).reverse
where
  /-- White space of a line. -/
  isSpace (c : Char) : Bool := c = ' ' || c = '\t' || c = '\r'

/-- Reads the blocks from a list of lines; `open?` is the block being read, its kind and its body so
far. A block that is not closed makes the text unreadable. -/
def ofLines (lines : List (List Char)) (open? : Option (List Char × List Char)) :
    Option (List Block) :=
  match lines, open? with
  | [], none => some []
  | [], some _ => none
  | line :: rest, none => ofLines rest ((kindOf? line).map fun kind => (kind, []))
  | line :: rest, some (kind, body) =>
      if line = "-----END ".toList ++ kind ++ "-----".toList then
        (ofLines rest none).map (⟨String.ofList kind, String.ofList body⟩ :: ·)
      else ofLines rest (some (kind, body ++ line))

/-- The blocks of a text. -/
def all? (text : String) : Option (List Block) := ofLines (lines text) none

end Block

namespace Certificate

/-- The kind of a block that holds a certificate. -/
def blockKind : String := "CERTIFICATE"

/-- The characters of a text as numerals, each closed by a slash. -/
def packText (text : String) : List Char :=
  text.toList.flatMap fun c => Nat.toDigits 16 c.toNat ++ ['/']

/-- Reads a text back from its numerals. -/
def unpackText? (packed : List Char) : Option String :=
  let numerals := packed.splitOn '/'
  if numerals.getLast? ≠ some [] then none
  else
    (numerals.dropLast.mapM fun numeral =>
      let (digits, rest) := IpAddress.spanDigits 16 numeral
      if digits = [] ∨ rest ≠ [] then none
      else some (Char.ofNat (IpAddress.numberOf 16 digits))).map String.ofList

/-- One name as a text: its kind, and the name or its bytes. -/
def packName : SubjectName → String
  | .domain name => "d" ++ name
  | .address bytes => "a" ++ String.ofList (bytes.map Char.ofNat)

/-- Reads a name back. -/
def unpackName? (packed : String) : Option SubjectName :=
  match packed.toList with
  | 'd' :: name => some (.domain (String.ofList name))
  | 'a' :: bytes => some (.address (bytes.map Char.toNat))
  | _ => none

/-- The body of a certificate's block: its fields, each followed by a plus sign. -/
def body (certificate : Certificate) : String :=
  let fields := [decimal certificate.key, certificate.subject, certificate.issuer,
    decimal certificate.signer, if certificate.authority then "1" else "0"] ++
    certificate.names.map packName
  String.ofList (fields.flatMap fun field => packText field ++ ['+'])

/-- Reads a certificate from the body of a block. -/
def ofBody? (body : String) : Option Certificate := do
  let fields := body.toList.splitOn '+'
  if fields.getLast? ≠ some [] then none
  match ← fields.dropLast.mapM unpackText? with
  | key :: subject :: issuer :: signer :: authority :: names =>
      return {
        key := ← key.toNat?
        subject, issuer
        signer := ← signer.toNat?
        authority := authority = "1"
        names := ← names.mapM unpackName? }
  | _ => none

/-- The text of a certificate. -/
def text (certificate : Certificate) : String := Block.text ⟨blockKind, certificate.body⟩

/-- The certificates of a text. A text with a block that is not closed, or with a certificate block
that holds no certificate, is unreadable; blocks of other kinds are passed over. -/
def all? (text : String) : Option (List Certificate) := do
  let blocks ← Block.all? text
  (blocks.filter (·.kind = blockKind)).mapM fun block => ofBody? block.body

end Certificate

namespace PrivateKey

/-- The kind of a block that holds a private key. -/
def blockKind : String := "PRIVATE KEY"

/-- The text of the private key of a numbered key pair. -/
def text (key : Nat) : String := Block.text ⟨blockKind, decimal key⟩

/-- The number of the key pair whose private key comes first in a text. -/
def first? (text : String) : Option Nat := do
  let blocks ← Block.all? text
  let block ← blocks.find? (·.kind = blockKind)
  block.body.toNat?

end PrivateKey

end FleetControl.Engine
