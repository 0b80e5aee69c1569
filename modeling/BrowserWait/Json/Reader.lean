import BrowserWait.Json.Numeral

/-!
# Reading JSON texts

A JSON text is read into a value, or refused. Arrays and objects nest at most 127 deep, of two members with one key
the later one counts, strings hold no raw control character and no half of a surrogate pair.
-/

namespace BrowserWait.Json

/-- Arrays and objects inside one another are read up to this depth. -/
def greatestDepth : Nat := 127

/-- The characters that may stand between the parts of a JSON text. -/
def isGap (c : Char) : Bool := c == ' ' || c == '\n' || c == '\t' || c == '\r'

/-- A text without the gap it starts with. -/
def skipGap (text : List Char) : List Char := text.dropWhile isGap

/-! ## Strings -/

/-- The value of a hexadecimal digit. -/
def hexValue? (c : Char) : Option Nat :=
  let n := c.toNat
  if 48 ≤ n ∧ n ≤ 57 then some (n - 48)
  else if 97 ≤ n ∧ n ≤ 102 then some (n - 87)
  else if 65 ≤ n ∧ n ≤ 70 then some (n - 55)
  else none

/-- The 16-bit unit of four hexadecimal digits, and what follows them. -/
def unit? : List Char → Option (Nat × List Char)
  | a :: b :: c :: d :: rest => do
    return (((← hexValue? a) * 16 + (← hexValue? b)) * 256 + (← hexValue? c) * 16 + (← hexValue? d), rest)
  | _ => none

/-- The character of one or two units behind a backslash and a `u`, and what follows them. -/
def unitEscape? (text : List Char) : Option (Char × List Char) := do
  let (high, rest) ← unit? text
  if 0xDC00 ≤ high ∧ high ≤ 0xDFFF then none
  else if 0xD800 ≤ high ∧ high ≤ 0xDBFF then
    match rest with
    | '\\' :: 'u' :: rest => do
      let (low, rest) ← unit? rest
      if 0xDC00 ≤ low ∧ low ≤ 0xDFFF then
        some (Char.ofNat (0x10000 + (high - 0xD800) * 0x400 + (low - 0xDC00)), rest)
      else none
    | _ => none
  else some (Char.ofNat high, rest)

/-- The character of an escape behind its backslash, and what follows it. -/
def escape? : List Char → Option (Char × List Char)
  | '"' :: rest => some ('"', rest)
  | '\\' :: rest => some ('\\', rest)
  | '/' :: rest => some ('/', rest)
  | 'b' :: rest => some ('\x08', rest)
  | 'f' :: rest => some ('\x0c', rest)
  | 'n' :: rest => some ('\n', rest)
  | 'r' :: rest => some ('\r', rest)
  | 't' :: rest => some ('\t', rest)
  | 'u' :: rest => unitEscape? rest
  | _ => none

/-- The characters of a string behind its opening quote, and what follows its closing quote. -/
def stringBody? : (fuel : Nat) → List Char → Option (List Char × List Char)
  | 0, _ => none
  | fuel + 1, text =>
    match text with
    | [] => none
    | '"' :: rest => some ([], rest)
    | '\\' :: rest => do
      let (c, rest) ← escape? rest
      let (more, rest) ← stringBody? fuel rest
      return (c :: more, rest)
    | c :: rest =>
      if c.toNat < 0x20 then none
      else do
        let (more, rest) ← stringBody? fuel rest
        return (c :: more, rest)

/-- The string that begins with a quote, and what follows it. -/
def string? : List Char → Option (String × List Char)
  | '"' :: rest => do
    let (body, rest) ← stringBody? (rest.length + 1) rest
    return (String.ofList body, rest)
  | _ => none

/-! ## Values -/

mutual

/-- The value a text starts with, and what follows it. -/
def value? : (fuel depth : Nat) → List Char → Option (Json × List Char)
  | 0, _, _ => none
  | fuel + 1, depth, text =>
    match skipGap text with
    | 'n' :: 'u' :: 'l' :: 'l' :: rest => some (null, rest)
    | 't' :: 'r' :: 'u' :: 'e' :: rest => some (bool true, rest)
    | 'f' :: 'a' :: 'l' :: 's' :: 'e' :: rest => some (bool false, rest)
    | '[' :: rest =>
      match depth with
      | 0 => none
      | depth + 1 =>
        match skipGap rest with
        | ']' :: rest => some (array [], rest)
        | rest => do
          let (items, rest) ← items? fuel depth rest
          return (array items, rest)
    | '\x7b' :: rest =>
      match depth with
      | 0 => none
      | depth + 1 =>
        match skipGap rest with
        | '\x7d' :: rest => some (object [], rest)
        | rest => do
          let (members, rest) ← members? fuel depth rest
          return (ofMembers members, rest)
    | '"' :: rest => do
      let (value, rest) ← string? ('"' :: rest)
      return (string value, rest)
    | rest => do
      let (value, rest) ← JsonNumber.read? rest
      return (number value, rest)

/-- The items of an array up to its closing bracket, and what follows it. -/
def items? : (fuel depth : Nat) → List Char → Option (List Json × List Char)
  | 0, _, _ => none
  | fuel + 1, depth, text => do
    let (item, rest) ← value? fuel depth text
    match skipGap rest with
    | ',' :: rest =>
      let (more, rest) ← items? fuel depth rest
      return (item :: more, rest)
    | ']' :: rest => return ([item], rest)
    | _ => none

/-- The members of an object up to its closing brace, and what follows it. -/
def members? : (fuel depth : Nat) → List Char → Option (List (String × Json) × List Char)
  | 0, _, _ => none
  | fuel + 1, depth, text => do
    let (key, rest) ← string? (skipGap text)
    match skipGap rest with
    | ':' :: rest =>
      let (value, rest) ← value? fuel depth rest
      match skipGap rest with
      | ',' :: rest =>
        let (more, rest) ← members? fuel depth rest
        return ((key, value) :: more, rest)
      | '\x7d' :: rest => return ([(key, value)], rest)
      | _ => none
    | _ => none

end

/-- The value of a whole text. -/
def ofChars? (text : List Char) : Option Json := do
  let (value, rest) ← value? (2 * text.length + 1) greatestDepth text
  if (skipGap rest).isEmpty then some value else none

/-- The value of a whole text. -/
def parse? (text : String) : Option Json := ofChars? text.toList

end BrowserWait.Json
