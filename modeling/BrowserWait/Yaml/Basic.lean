import BrowserWait.Document.Node
import BrowserWait.Text.Numeral
import BrowserWait.Text.Split

/-!
# YAML values

YAML documents as trees of scalars, lists and mappings. A scalar is a text and whether it stood there plainly; only a
plain scalar can be null, a truth value or a number, and every scalar can be a text.
-/

namespace BrowserWait

/-- A YAML value. -/
inductive Yaml where
  | scalar (text : String) (plain : Bool)
  | list (items : List Yaml)
  | mapping (entries : List (Yaml × Yaml))
deriving Repr, Inhabited

namespace Yaml

/-- The value of what is left out. -/
def missing : Yaml := scalar "" true

/-! ## Plain scalars -/

/-- Whether a plain scalar is null. -/
def isNullText (text : String) : Bool := ["", "~", "null", "Null", "NULL"].contains text

/-- The truth value of a plain scalar. -/
def flagOfText? (text : String) : Option Bool :=
  if ["true", "True", "TRUE"].contains text then some true
  else if ["false", "False", "FALSE"].contains text then some false
  else none

/-- The value of a digit in a base up to sixteen. -/
def digitIn? (base : Nat) (c : Char) : Option Nat :=
  let n := c.toNat
  let value :=
    if 48 ≤ n ∧ n ≤ 57 then n - 48
    else if 97 ≤ n ∧ n ≤ 102 then n - 87
    else if 65 ≤ n ∧ n ≤ 70 then n - 55
    else base
  if value < base then some value else none

/-- The value of digits in a base; there has to be one. -/
def digitsIn? (base : Nat) : List Char → Option Nat
  | [] => none
  | digits => (digits.mapM (digitIn? base)).map (·.foldl (fun value digit => value * base + digit) 0)

/-- Digits with a zero in front are no number. -/
def isPaddedNumeral (digits : List Char) : Bool :=
  match digits with
  | '0' :: more => !more.isEmpty && more.all Char.isDigit
  | _ => false

/-- The value of an unsigned numeral in one of four bases. -/
def magnitude? (text : List Char) : Option Nat :=
  let based :=
    match text with
    | '0' :: 'x' :: digits => digitsIn? 16 digits
    | '0' :: 'o' :: digits => digitsIn? 8 digits
    | '0' :: 'b' :: digits => digitsIn? 2 digits
    | _ => none
  match based with
  | some value => some value
  | none => if isPaddedNumeral text then none else digitsIn? 10 text

/-- The integer of a plain scalar. -/
def integerOfText? (text : List Char) : Option Int :=
  match text with
  | '-' :: digits => (magnitude? digits).map fun value => -(value : Int)
  | '+' :: digits => (magnitude? digits).map Int.ofNat
  | digits => (magnitude? digits).map Int.ofNat

/-- The number below `2 ^ 64` of a plain scalar; a minus sign makes it none. -/
def naturalOfText? (text : List Char) : Option Nat :=
  match text with
  | '-' :: _ => none
  | _ =>
    match integerOfText? text with
    | some (.ofNat n) => if n < Text.wordBound then some n else none
    | _ => none

/-- The exponent behind an `e`, kept within bounds that decide every number's size. -/
def exponentOfText? (bound : Nat) (text : List Char) : Option Int :=
  let read (digits : List Char) : Option Nat := (digitsIn? 10 digits).map (min bound)
  match text with
  | '-' :: digits => (read digits).map fun value => -(value : Int)
  | '+' :: digits => (read digits).map Int.ofNat
  | digits => (read digits).map Int.ofNat

/-- The finite number of an unsigned decimal text with a point or an exponent. -/
def decimalOfText? (negative : Bool) (text : List Char) : Option Binary64 := do
  let whole := text.takeWhile Char.isDigit
  let rest := text.dropWhile Char.isDigit
  let (fraction, rest) := match rest with
    | '.' :: rest => (rest.takeWhile Char.isDigit, rest.dropWhile Char.isDigit)
    | _ => ([], rest)
  let significand ← digitsIn? 10 (whole ++ fraction)
  let exponent ← match rest with
    | [] => some 0
    | 'e' :: rest | 'E' :: rest => exponentOfText? (text.length + 400) rest
    | _ => none
  let power := exponent - fraction.length
  Binary64.ofRatio? negative (significand * Nat.pow 10 power.toNat) (Nat.pow 10 (-power).toNat)

/-- The finite number of a plain scalar. -/
def doubleOfText? (text : List Char) : Option Binary64 :=
  match text with
  | '-' :: digits => decimalOfText? true digits
  | '+' :: digits => decimalOfText? false digits
  | digits => decimalOfText? false digits

/-- Whether a plain scalar is an infinity or no number at all, which JSON can only give as null. -/
def isNotFinite (text : String) : Bool :=
  [".inf", ".Inf", ".INF", "+.inf", "+.Inf", "+.INF", "-.inf", "-.Inf", "-.INF", ".nan", ".NaN", ".NAN"].contains text

/-- A text without its sign. -/
def unsigned (text : List Char) : List Char :=
  match text with
  | '-' :: digits | '+' :: digits => digits
  | _ => text

/-- Whether an integer fits in 64 bits, signed or unsigned. -/
def fitsWord (value : Int) : Bool := -0x8000000000000000 ≤ value && value < Text.wordBound

/-- Whether an integer fits in 128 bits, signed or unsigned. -/
def fitsLongWord (value : Int) : Bool :=
  -0x80000000000000000000000000000000 ≤ value && value < 0x100000000000000000000000000000000

/-- The JSON value of a plain scalar that is no integer of at most 128 bits: a finite number, or else a text. -/
def jsonOfDecimal (text : String) : Json :=
  if isPaddedNumeral (unsigned text.toList) then .string text
  else if isNotFinite text then .null
  else
    match doubleOfText? text.toList with
    | some value => .number (.double value)
    | none => .string text

/-- The JSON value of a plain scalar. An integer of 64 bits is a number, a larger one of up to 128 bits has no value,
and beyond that a decimal one is rounded. -/
def jsonOfText? (text : String) : Option Json :=
  if isNullText text then some .null
  else
    match flagOfText? text, integerOfText? text.toList with
    | some value, _ => some (.bool value)
    | none, some value =>
      if fitsWord value then some (.number (.integer value))
      else if fitsLongWord value then none
      else some (jsonOfDecimal text)
    | none, none => some (jsonOfDecimal text)

/-! ## Values as nodes -/

/-- The text of a scalar. -/
def text? : Yaml → Option String
  | scalar text _ => some text
  | _ => none

mutual

/-- The JSON value of a YAML value; keys have to be scalars. -/
def json? : Yaml → Option Json
  | scalar text true => jsonOfText? text
  | scalar text false => some (.string text)
  | list items => (jsonItems? items).map .array
  | mapping entries => (jsonMembers? entries).map .ofMembers

/-- The JSON values of the items of a list. -/
def jsonItems? : List Yaml → Option (List Json)
  | [] => some []
  | item :: more => do return (← item.json?) :: (← jsonItems? more)

/-- The JSON members of the entries of a mapping. -/
def jsonMembers? : List (Yaml × Yaml) → Option (List (String × Json))
  | [] => some []
  | (key, value) :: more => do return (← key.text?, ← value.json?) :: (← jsonMembers? more)

end

mutual

/-- How many lists and mappings stand in one another in a value; those in keys do not count. -/
def depth : Yaml → Nat
  | scalar _ _ => 0
  | list items => depthOfItems items + 1
  | mapping entries => depthOfEntries entries + 1

/-- The depth of the deepest item. -/
def depthOfItems : List Yaml → Nat
  | [] => 0
  | item :: more => max item.depth (depthOfItems more)

/-- The depth of the deepest value of an entry. -/
def depthOfEntries : List (Yaml × Yaml) → Nat
  | [] => 0
  | (_, value) :: more => max value.depth (depthOfEntries more)

end

/-- How many lists and mappings may stand in one another in a document, as far as it is read. -/
def maxDepth : Nat := 128

/-- The entries of a mapping under the texts of their keys; what is left out has none. -/
def named? : Yaml → Option (List (String × Yaml))
  | mapping entries => entries.mapM fun (key, value) => (text? key).map (·, value)
  | scalar "" true => some []
  | _ => none

instance : Node Yaml where
  isNull
    | scalar text true => isNullText text
    | _ => false
  text? := text?
  natural?
    | scalar text true => naturalOfText? text.toList
    | _ => none
  flag?
    | scalar text true => flagOfText? text
    | _ => none
  choice? := text?
  fields? value := (named? value).map .named
  members? value := do
    -- the members of a field stand in the mapping of the fields
    guard (value.depth < maxDepth)
    match json? (mapping ((← named? value).map fun (key, value) => (scalar key false, value))) with
    | some (.object members) => some members
    | _ => none

end Yaml

end BrowserWait
