import BrowserWait.Json.Basic
import BrowserWait.Text.Numeral

/-!
# Reading JSON numbers

A number is read in one pass into an integer of 64 bits and a decimal exponent. Digits that no longer fit are
dropped and counted in the exponent. An integer that fits stays an integer; all else becomes a double: the
significand and the power of ten are rounded, and so is their product or quotient. A number beyond the finite
doubles is refused; one that is too small becomes zero.
-/

namespace BrowserWait.JsonNumber

/-- The first exponent that does not fit in 32 signed bits. -/
def exponentBound : Nat := 0x80000000

/-- The largest tabulated power of ten. -/
def greatestPower : Nat := 308

/-- The digits a text starts with, and what follows them. -/
def digitRun (text : List Char) : List Char × List Char := (text.takeWhile Char.isDigit, text.dropWhile Char.isDigit)

/-- Digits read into a significand that must stay below a bound: the significand, and the digits that did not fit. -/
def accumulate (bound : Nat) : (significand : Nat) → List Char → Nat × List Char
  | significand, [] => (significand, [])
  | significand, c :: digits =>
    let next := significand * 10 + (c.toNat - 48)
    if next < bound then accumulate bound next digits else (significand, c :: digits)

/-- A significand divided by `10 ^ down`, in steps of the largest tabulated power. -/
def scaleDown : (steps : Nat) → Binary64 → (down : Nat) → Option Binary64
  | 0, value, _ => some value
  | steps + 1, value, down =>
    if down ≤ greatestPower then do value.div? (← Binary64.tenPow? down)
    else if value.isZero then some value
    else do scaleDown steps (← value.div? (← Binary64.tenPow? greatestPower)) (down - greatestPower)

/-- The double of a significand and a decimal exponent; none beyond the finite doubles. -/
def scaled? (negative : Bool) (significand : Nat) (exponent : Int) : Option Binary64 := do
  let value ← Binary64.ofNat? significand
  let magnitude ←
    if 0 ≤ exponent then
      if exponent ≤ greatestPower then do value.mul? (← Binary64.tenPow? exponent.toNat)
      else if value.isZero then some value
      else none
    else scaleDown (exponent.natAbs / greatestPower + 1) value exponent.natAbs
  return magnitude.withSign negative

/-- The double whose text continues with what may be an exponent. -/
def withExponent? (negative : Bool) (significand : Nat) (exponent : Int) (text : List Char) :
    Option (JsonNumber × List Char) :=
  match text with
  | 'e' :: rest | 'E' :: rest =>
    let (down, rest) := match rest with
      | '+' :: rest => (false, rest)
      | '-' :: rest => (true, rest)
      | _ => (false, rest)
    match digitRun rest with
    | ([], _) => none
    | (digits, rest) =>
      match accumulate exponentBound 0 digits with
      | (shift, []) => do
        let exponent := if down then exponent - shift else exponent + shift
        return (.double (← scaled? negative significand exponent), rest)
      | (_, _ :: _) =>
        if significand ≠ 0 ∧ !down then none else some (.double (Binary64.zero negative), rest)
  | _ => do return (.double (← scaled? negative significand exponent), text)

/-- The double whose text continues behind a decimal point. -/
def withFraction? (negative : Bool) (significand : Nat) (exponent : Int) (text : List Char) :
    Option (JsonNumber × List Char) :=
  match digitRun text with
  | ([], _) => none
  | (digits, rest) =>
    let (significand, dropped) := accumulate Text.wordBound significand digits
    withExponent? negative significand (exponent - (digits.length - dropped.length : Nat)) rest

/-- An integer, if it fits in 64 bits as a signed or an unsigned number. -/
def ofSignificand? (negative : Bool) (significand : Nat) : Option JsonNumber :=
  if !negative then some (.integer significand)
  else if significand ≠ 0 ∧ significand ≤ 0x8000000000000000 then some (.integer (-significand))
  else do return .double (← scaled? true significand 0)

/-- The number a text starts with, and what follows it. -/
def read? (text : List Char) : Option (JsonNumber × List Char) :=
  let (negative, text) := match text with
    | '-' :: rest => (true, rest)
    | _ => (false, text)
  match digitRun text with
  | ([], _) | ('0' :: _ :: _, _) => none
  | (digits, rest) =>
    let (significand, dropped) := accumulate Text.wordBound 0 digits
    match rest with
    | '.' :: rest => withFraction? negative significand dropped.length rest
    | 'e' :: _ | 'E' :: _ => withExponent? negative significand dropped.length rest
    | _ =>
      if dropped.isEmpty then do return (← ofSignificand? negative significand, rest)
      else withExponent? negative significand dropped.length rest

end BrowserWait.JsonNumber
