import BrowserWait.Decimal.Binary64

/-!
# Shortest decimals

The decimal text of a binary64 number: the fewest digits that round back to it, and of those the nearest to it.
The digits are found on the grids of multiples of a power of ten, from coarse to fine.
-/

namespace BrowserWait.Binary64

/-- The numbers that round to a positive number, in units of `2 ^ (exponent - 2)`: the ends, and whether they count. -/
def roundingInterval (x : Binary64) : Nat × Nat × Bool :=
  let below := if x.mantissa = leastFull ∧ minExponent < x.exponent then 1 else 2
  (4 * x.mantissa - below, 4 * x.mantissa + 2, x.mantissa % 2 = 0)

/-- A multiple of `10 ^ k` and the unit of the rounding interval, as naturals over one denominator. -/
def gridStep (x : Binary64) (k : Int) : Nat × Nat :=
  let e := x.exponent - 2
  (Nat.pow 10 k.toNat * Nat.pow 2 (-e).toNat, Nat.pow 2 e.toNat * Nat.pow 10 (-k).toNat)

/-- The multiple of `10 ^ k` that rounds to a positive number and is nearest to it, if one rounds to it. -/
def onGrid? (x : Binary64) (k : Int) : Option Nat :=
  let (step, unit) := x.gridStep k
  let (low, high, closed) := x.roundingInterval
  let inside (c : Nat) : Bool :=
    if closed then low * unit ≤ c * step && c * step ≤ high * unit
    else low * unit < c * step && c * step < high * unit
  let value := 4 * x.mantissa * unit
  let c := value / step
  let under := 2 * (value % step)
  let nearer := if under < step ∨ (under = step ∧ c % 2 = 0) then c else c + 1
  let other := if nearer = c then c + 1 else c
  if inside nearer then some nearer else if inside other then some other else none

/-- The first grid from `10 ^ k` down that holds a number's text, with the multiple on it. -/
def coarsest (x : Binary64) : (grids : Nat) → (k : Int) → Nat × Int
  | 0, k => (4 * x.mantissa * (x.gridStep k).2 / (x.gridStep k).1, k)
  | grids + 1, k =>
    match x.onGrid? k with
    | some c => (c, k)
    | none => coarsest x grids (k - 1)

/-- The fewest digits that round back to a positive number, and the power of ten of the last of them. -/
def shortestDigits (x : Binary64) : List Char × Int :=
  let magnitude : Int := (x.mantissa.log2 : Int) + x.exponent
  let (c, k) := x.coarsest 24 (magnitude * 30103 / 100000 + 2)
  (Nat.toDigits 10 c, k)

/-- How digits become a text: the powers of ten of the first digit that are written without an exponent. -/
structure DecimalLayout where
  leastPlain : Int
  beyondPlain : Int
deriving DecidableEq, Repr

/-- Digits `d` and the power of ten of the last one, laid out. Plain texts have at least one decimal; an exponent
carries its sign and no padding. -/
def DecimalLayout.text (layout : DecimalLayout) (digits : List Char) (k : Int) : List Char :=
  let lead : Int := k + digits.length - 1
  if layout.leastPlain ≤ lead ∧ lead < layout.beyondPlain then
    if 0 ≤ k then digits ++ List.replicate k.toNat '0' ++ ['.', '0']
    else if 0 ≤ lead then
      digits.take (lead.toNat + 1) ++ '.' :: digits.drop (lead.toNat + 1)
    else '0' :: '.' :: List.replicate (-lead - 1).toNat '0' ++ digits
  else
    let exponent := (if lead < 0 then '-' else '+') :: Nat.toDigits 10 lead.natAbs
    match digits with
    | [] => []
    | [d] => d :: 'e' :: exponent
    | d :: more => d :: '.' :: more ++ 'e' :: exponent

/-- The text of a number in a layout; zero has one decimal and keeps its sign. -/
def text (layout : DecimalLayout) (x : Binary64) : List Char :=
  let magnitude :=
    if x.isZero then ['0', '.', '0']
    else
      let (digits, k) := x.shortestDigits
      layout.text digits k
  if x.negative then '-' :: magnitude else magnitude

end BrowserWait.Binary64
