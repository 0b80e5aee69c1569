/-!
# Finite binary64 numbers

Finite numbers in the binary64 format, held exactly as a mantissa and a power of two. A ratio of naturals becomes
the nearest such number, of two equally near ones the one with the even mantissa; products and quotients are exact
ratios that are rounded once. Nothing here depends on the machine's own floating-point unit.
-/

namespace BrowserWait

/-- The number `mantissa * 2 ^ exponent`, negated when `negative`. -/
structure Binary64 where
  negative : Bool
  mantissa : Nat
  exponent : Int
deriving DecidableEq, Repr, Inhabited

namespace Binary64

/-- The exponent of the smallest positive number. -/
def minExponent : Int := -1074

/-- The largest exponent of a finite number. -/
def maxExponent : Int := 971

/-- The first mantissa with 53 bits. -/
def leastFull : Nat := 0x10000000000000

/-- Zero, with a sign. -/
def zero (negative : Bool) : Binary64 := ⟨negative, 0, minExponent⟩

/-- Whether a number is zero of either sign. -/
def isZero (x : Binary64) : Bool := x.mantissa == 0

/-- The same magnitude with a given sign. -/
def withSign (negative : Bool) (x : Binary64) : Binary64 := { x with negative }

/-- `a / 2 ^ e` as a ratio of naturals. -/
def unscaled (num den : Nat) (e : Int) : Nat × Nat :=
  (num * Nat.pow 2 (-e).toNat, den * Nat.pow 2 e.toNat)

/-- A ratio rounded to a natural, a half going to the even neighbour. -/
def roundEven (num den : Nat) : Nat :=
  let q := num / den
  let twice := 2 * (num % den)
  if twice < den ∨ (twice = den ∧ q % 2 = 0) then q else q + 1

/-- The number nearest to `num / den`; none when it lies beyond the finite numbers. -/
def ofRatio? (negative : Bool) (num den : Nat) : Option Binary64 :=
  if num = 0 then some (zero negative)
  else
    let low : Int := (num.log2 : Int) - den.log2 - 53
    let (a, b) := unscaled num den low
    let fitted := if 2 * leastFull ≤ a / b then low + 1 else low
    let e := max fitted minExponent
    let (a, b) := unscaled num den e
    let m := roundEven a b
    let (m, e) := if m = 2 * leastFull then (leastFull, e + 1) else (m, e)
    if maxExponent < e then none else some ⟨negative, m, e⟩

/-- A number's magnitude as a ratio of naturals. -/
def ratio (x : Binary64) : Nat × Nat := (x.mantissa * Nat.pow 2 x.exponent.toNat, Nat.pow 2 (-x.exponent).toNat)

/-- The magnitude of a product, rounded once. -/
def mul? (x y : Binary64) : Option Binary64 :=
  let (a, b) := x.ratio
  let (c, d) := y.ratio
  ofRatio? false (a * c) (b * d)

/-- The magnitude of a quotient by a number other than zero, rounded once. -/
def div? (x y : Binary64) : Option Binary64 :=
  let (a, b) := x.ratio
  let (c, d) := y.ratio
  ofRatio? false (a * d) (b * c)

/-- The natural number nearest to `n` that the format holds. -/
def ofNat? (n : Nat) : Option Binary64 := ofRatio? false n 1

/-- The power of ten nearest to `10 ^ k` that the format holds. -/
def tenPow? (k : Nat) : Option Binary64 := ofNat? (Nat.pow 10 k)

example : ofRatio? false 1 10 = some ⟨false, 0x1999999999999a, -56⟩ := by decide
example : ofNat? 0x20000000000001 = some ⟨false, leastFull, 1⟩ := by decide

end Binary64

end BrowserWait
