import BrowserWait.Json.Basic
import BrowserWait.Decimal.Shortest
import BrowserWait.Text.Numeral

/-!
# Compact JSON text

The text of a JSON value without spaces. Strings escape the quote, the backslash and the control characters below
the space, and nothing else.
-/

namespace BrowserWait

namespace JsonNumber

/-- Doubles from `1e-5` up to below `1e16` are written plainly. -/
def layout : Binary64.DecimalLayout := ⟨-5, 16⟩

/-- The text of a number. -/
def text : JsonNumber → List Char
  | integer (.ofNat n) => Text.numeral n
  | integer (.negSucc n) => '-' :: Text.numeral (n + 1)
  | double value => value.text layout

end JsonNumber

namespace Json

/-- A digit of a lower-case hexadecimal numeral. -/
def hexDigit (n : Nat) : Char := Nat.digitChar (n % 16)

/-- How one character stands in a string. -/
def escaped (c : Char) : List Char :=
  if c = '"' then ['\\', '"']
  else if c = '\\' then ['\\', '\\']
  else if c = '\x08' then ['\\', 'b']
  else if c = '\x0c' then ['\\', 'f']
  else if c = '\n' then ['\\', 'n']
  else if c = '\r' then ['\\', 'r']
  else if c = '\t' then ['\\', 't']
  else if c.toNat < 0x20 then ['\\', 'u', '0', '0', hexDigit (c.toNat / 16), hexDigit c.toNat]
  else [c]

/-- A string with its quotes. -/
def stringText (value : String) : List Char := '"' :: value.toList.flatMap escaped ++ ['"']

mutual

/-- The characters of a value's text. -/
def chars : Json → List Char
  | null => ['n', 'u', 'l', 'l']
  | bool true => ['t', 'r', 'u', 'e']
  | bool false => ['f', 'a', 'l', 's', 'e']
  | number value => value.text
  | string value => stringText value
  | array items => '[' :: itemChars items ++ [']']
  | object members => '\x7b' :: memberChars members ++ ['\x7d']

/-- The characters of the items of an array. -/
def itemChars : List Json → List Char
  | [] => []
  | [item] => item.chars
  | item :: more => item.chars ++ ',' :: itemChars more

/-- The characters of the members of an object. -/
def memberChars : List (String × Json) → List Char
  | [] => []
  | [(key, value)] => stringText key ++ ':' :: value.chars
  | (key, value) :: more => stringText key ++ ':' :: value.chars ++ ',' :: memberChars more

end

/-- The compact text of a value. -/
def compact (value : Json) : String := String.ofList value.chars

/-- The text of a string itself, and the compact text of any other value. -/
def plainText : Json → String
  | string value => value
  | other => other.compact

end Json

end BrowserWait
