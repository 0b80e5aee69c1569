/-!
# Unsigned numerals

Decimal numerals of numbers below `2 ^ 64`. A numeral may carry a plus sign and leading zeros when it is read;
it carries neither when it is written.
-/

namespace BrowserWait.Text

/-- The first number that does not fit in 64 bits. -/
def wordBound : Nat := 0x10000000000000000

/-- The number a row of decimal digits denotes. -/
def digitsValue? : List Char → Option Nat
  | [] => none
  | digits => if digits.all Char.isDigit then some (Nat.ofDigitChars 10 digits 0) else none

/-- The number of a numeral, if it has one below `2 ^ 64`. -/
def readUnsigned? (text : List Char) : Option Nat :=
  let digits := match text with
    | '+' :: rest => rest
    | _ => text
  (digitsValue? digits).filter (· < wordBound)

/-- The shortest numeral of a number. -/
def numeral (n : Nat) : List Char := Nat.toDigits 10 n

theorem numeral_eq_repr (n : Nat) : String.ofList (numeral n) = toString n := by
  apply String.toList_inj.mp
  simp [numeral, String.toList_ofList, toString, Nat.toList_repr]

theorem isDigit_of_mem_numeral {n : Nat} {c : Char} (h : c ∈ numeral n) : c.isDigit = true :=
  Nat.isDigit_of_mem_toDigits (by omega) (by omega) h

theorem numeral_ne_nil (n : Nat) : numeral n ≠ [] := by
  rw [numeral, Nat.toDigits_eq_if (by omega)]
  split <;> simp

theorem digitsValue?_numeral (n : Nat) : digitsValue? (numeral n) = some n := by
  have digits : (numeral n).all Char.isDigit = true := by
    simpa using fun c h => isDigit_of_mem_numeral h
  have value : Nat.ofDigitChars 10 (numeral n) 0 = n := Nat.ofDigitChars_toDigits (by omega) (by omega)
  cases text : numeral n with
  | nil => exact absurd text (numeral_ne_nil n)
  | cons c rest =>
    rw [text] at digits value
    simp only [digitsValue?, digits, value, if_true]

/-- Every number that fits is read back from its numeral. -/
theorem readUnsigned?_numeral {n : Nat} (fits : n < wordBound) : readUnsigned? (numeral n) = some n := by
  have noSign : ∀ rest, numeral n ≠ '+' :: rest := by
    intro rest sign
    have digit : '+'.isDigit = true := isDigit_of_mem_numeral (n := n) (by simp [sign])
    exact absurd digit (by decide)
  have whole : readUnsigned? (numeral n) = (digitsValue? (numeral n)).filter (· < wordBound) := by
    unfold readUnsigned?
    split
    · next rest sign => exact absurd sign (noSign rest)
    · rfl
  rw [whole, digitsValue?_numeral]
  simp [Option.filter, fits]

/-- Different numbers have different numerals. -/
theorem numeral_inj {m n : Nat} (same : numeral m = numeral n) : m = n := by
  have read := digitsValue?_numeral m
  rw [same, digitsValue?_numeral] at read
  exact (Option.some.inj read).symm

example : readUnsigned? "+007".toList = some 7 ∧ readUnsigned? "".toList = none := by decide
example : readUnsigned? "18446744073709551616".toList = none := by decide

end BrowserWait.Text
