import FleetControl.Network.IpAddress
import FleetControl.Toml.Scan

/-!
# Quoted text in settings files

Four forms: text between double quotes, in which a backslash begins an escape, and text between
single quotes, which has none, each on one line or, between three quotes, on several. A line end
directly after three opening quotes is dropped, every other one is a line feed, and up to two quotes
may stand directly before the three closing ones.
-/

namespace FleetControl.Toml

open FleetControl.Network

/-- The character with a code point. The halves of surrogate pairs are no characters. -/
def charOf? (code : Nat) : Option Char :=
  if code < 0xd800 ∨ (0xdfff < code ∧ code < 0x110000) then some (Char.ofNat code) else none

/-- Reads a character from exactly `count` hexadecimal digits of its code point. -/
def codePoint (count : Nat) (chars : List Char) : Reading (Char × List Char) :=
  let (digits, rest) := IpAddress.spanDigits 16 (chars.take count)
  if digits.length = count ∧ rest = [] then
    orStuck chars ((charOf? (IpAddress.numberOf 16 digits)).map (·, chars.drop count))
  else .error chars

/-- Reads what follows the backslash of an escape. -/
def escape : List Char → Reading (Char × List Char)
  | 'b' :: rest => .ok ('\x08', rest)
  | 't' :: rest => .ok ('\t', rest)
  | 'n' :: rest => .ok ('\n', rest)
  | 'f' :: rest => .ok ('\x0c', rest)
  | 'r' :: rest => .ok ('\r', rest)
  | '"' :: rest => .ok ('"', rest)
  | '\\' :: rest => .ok ('\\', rest)
  | 'u' :: rest => codePoint 4 rest
  | 'U' :: rest => codePoint 8 rest
  | c :: rest => .error (if c.toNat < 0x80 then rest else c :: rest)
  | [] => .error ['\\']

/-- What follows the backslash of a folded line end: spaces, a line end, and all spaces and line ends
after it. -/
def fold? (chars : List Char) : Option (List Char) :=
  (lineEnd? (skipSpace chars)).map skipFold

/-- Adds a character to the front of what is read. -/
def prepend (c : Char) (read : Reading (List Char × List Char)) : Reading (List Char × List Char) :=
  read.map fun (text, rest) => (c :: text, rest)

/-- Reads the rest of a text on one line up to its closing quote. The first argument bounds the
length of the text. -/
def lineText : Nat → Bool → List Char → Reading (List Char × List Char)
  | 0, _, chars => .error chars
  | _, _, [] => .error []
  | fuel + 1, escapes, c :: rest =>
      if c = (if escapes then '"' else '\'') then .ok ([], rest)
      else if escapes && c = '\\' then do
        let (e, rest) ← escape rest
        prepend e (lineText fuel escapes rest)
      else if isPrintable c then prepend c (lineText fuel escapes rest)
      else .error (c :: rest)

/-- Reads the rest of a text on several lines up to its three closing quotes. The first argument
bounds the length of the text. -/
def blockText : Nat → Bool → List Char → Reading (List Char × List Char)
  | 0, _, chars => .error chars
  | _, _, [] => .error []
  | fuel + 1, escapes, c :: rest =>
      let quote := if escapes then '"' else '\''
      if c = quote then
        let run := 1 + (rest.takeWhile (· = quote)).length
        if run < 3 then prepend c (blockText fuel escapes rest)
        else if run ≤ 5 then .ok (List.replicate (run - 3) quote, rest.drop (run - 1))
        else .ok (List.replicate 2 quote, rest.drop 4)
      else if escapes && c = '\\' then
        match fold? rest with
        | some rest => blockText fuel escapes rest
        | none => do
            let (e, rest) ← escape rest
            prepend e (blockText fuel escapes rest)
      else
        match lineEnd? (c :: rest) with
        | some rest => prepend '\n' (blockText fuel escapes rest)
        | none =>
            if isPrintable c then prepend c (blockText fuel escapes rest) else .error (c :: rest)

/-- Passes over a line end, if there is one. -/
def skipLineEnd (chars : List Char) : List Char := (lineEnd? chars).getD chars

/-- Reads a text on one line. -/
def lineQuoted : List Char → Reading (String × List Char)
  | '"' :: rest => (lineText (rest.length + 1) true rest).map fun (t, r) => (String.ofList t, r)
  | '\'' :: rest => (lineText (rest.length + 1) false rest).map fun (t, r) => (String.ofList t, r)
  | chars => .error chars

/-- Reads a text of any form. -/
def text (chars : List Char) : Reading (String × List Char) :=
  let block (escapes : Bool) (rest : List Char) : Reading (String × List Char) :=
    (blockText (rest.length + 1) escapes (skipLineEnd rest)).map fun (t, r) => (String.ofList t, r)
  match chars with
  | '"' :: '"' :: '"' :: rest => block true rest
  | '\'' :: '\'' :: '\'' :: rest => block false rest
  | _ => lineQuoted chars

end FleetControl.Toml
