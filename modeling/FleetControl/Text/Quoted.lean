import FleetControl.Number.Decimal
import FleetControl.Text.Hidden

/-!
# Quoted text

A text is quoted by putting it between double quotes. Inside, the quote and the backslash are
preceded by a backslash, the line feed, carriage return, tab and null character have short escapes,
and every other character that cannot be seen is written as its code point, `\u` and the
hexadecimal digits in braces.
-/

namespace FleetControl.Text

open FleetControl.Number

/-- The quoted form of one character. -/
def quotedChar (c : Char) : String :=
  if c = '"' then "\\\""
  else if c = '\\' then "\\\\"
  else if c = '\n' then "\\n"
  else if c = '\r' then "\\r"
  else if c = '\t' then "\\t"
  else if c = '\x00' then "\\0"
  else if isHidden c then "\\u\x7b" ++ hexadecimal c.toNat ++ "\x7d"
  else c.toString

/-- The quoted form of a text. -/
def quoted (text : String) : String :=
  "\"" ++ String.join (text.toList.map quotedChar) ++ "\""

end FleetControl.Text
