import Mathlib.Data.Char
import Mathlib.Data.List.Lex
import Mathlib.Data.String.Basic

/-!
# The order of bytes

Texts are in the order of their UTF-8 bytes when they are in that of their characters (`utf8_lt_iff`): the first byte of
a character tells how many follow and has the highest bits of its code, and each byte that follows has the next six.
-/

namespace BrowserWait.Text

/-- The bytes of a text in UTF-8. -/
def utf8 (text : String) : List UInt8 := text.toUTF8.data.toList

theorem utf8_eq_flatMap (text : String) : utf8 text = text.toList.flatMap String.utf8EncodeChar := by
  rw [utf8, String.toUTF8_eq_toByteArray, ← String.utf8Encode_toList, List.utf8Encode, List.data_toByteArray]

/-! ## The bytes of a code -/

/-- The number of bytes behind the first one. -/
def bytesBehind (code : Nat) : Nat :=
  if code ≤ 127 then 0 else if code ≤ 2047 then 1 else if code ≤ 65535 then 2 else 3

/-- The first byte. -/
def firstByte (code : Nat) : Nat :=
  if code ≤ 127 then code
  else if code ≤ 2047 then code / 64 + 192
  else if code ≤ 65535 then code / 4096 + 224
  else code / 262144 + 240

/-- The bytes behind the first one: six bits each, the highest ones first. -/
def continued (code : Nat) : (count : Nat) → List UInt8
  | 0 => []
  | count + 1 => UInt8.ofNat (code / Nat.pow 64 count % 64 + 128) :: continued code count

theorem code_lt (c : Char) : c.toNat < 1114112 := by
  rcases c.valid with low | ⟨_, high⟩
  · exact Nat.lt_trans low (by decide)
  · exact high

theorem firstByte_lt {code : Nat} (bounded : code < 1114112) : firstByte code < 256 := by
  unfold firstByte
  split_ifs <;> omega

theorem utf8EncodeChar_eq (c : Char) :
    String.utf8EncodeChar c = UInt8.ofNat (firstByte c.toNat) :: continued c.toNat (bytesBehind c.toNat) := by
  have bounded := code_lt c
  rw [String.utf8EncodeChar, Char.toNat] at *
  generalize c.val.toNat = code at *
  dsimp only [firstByte, bytesBehind]
  split_ifs
  · rfl
  · have high : code / 64 % 32 = code / 64 := Nat.mod_eq_of_lt (by omega)
    simp only [continued, Nat.pow_eq, Nat.reducePow, Nat.div_one, high]
  · have high : code / 4096 % 16 = code / 4096 := Nat.mod_eq_of_lt (by omega)
    simp only [continued, Nat.pow_eq, Nat.reducePow, Nat.div_one, high]
  · have high : code / 262144 % 8 = code / 262144 := Nat.mod_eq_of_lt (by omega)
    simp only [continued, Nat.pow_eq, Nat.reducePow, Nat.div_one, high]

/-! ## Comparing them -/

theorem ofNat_cons_lt_iff {m n : Nat} (first : m < 256) (second : n < 256) (x y : List UInt8) :
    UInt8.ofNat m :: x < UInt8.ofNat n :: y ↔ m < n ∨ m = n ∧ x < y := by
  rw [List.cons_lt_cons_iff, UInt8.lt_iff_toNat_lt, ← UInt8.toNat_inj, UInt8.toNat_ofNat', UInt8.toNat_ofNat',
    Nat.mod_eq_of_lt first, Nat.mod_eq_of_lt second]

/-- The bytes behind the first ones are in the order of the bits they hold. -/
theorem continued_lt {m n count : Nat} (less : m % Nat.pow 64 count < n % Nat.pow 64 count) (x y : List UInt8) :
    continued m count ++ x < continued n count ++ y := by
  induction count with
  | zero => simp [Nat.pow, Nat.mod_one] at less
  | succ count ih =>
    have split (k : Nat) : k % Nat.pow 64 (count + 1) =
        k % Nat.pow 64 count + Nat.pow 64 count * (k / Nat.pow 64 count % 64) := Nat.mod_mul
    rw [split, split] at less
    rw [continued, continued, List.cons_append, List.cons_append, ofNat_cons_lt_iff (by omega) (by omega)]
    rcases Nat.lt_trichotomy (m / Nat.pow 64 count % 64) (n / Nat.pow 64 count % 64) with first | same | first
    · exact .inl (by omega)
    · rw [same] at less
      exact .inr ⟨by omega, ih (by omega)⟩
    · have below : n % Nat.pow 64 count < Nat.pow 64 count := Nat.mod_lt n (Nat.pow_pos (by decide))
      have above := Nat.mul_le_mul_left (Nat.pow 64 count) first
      rw [Nat.mul_succ] at above
      omega

/-- Of two codes the smaller one has the smaller first byte, or the same one with smaller bits behind it. -/
theorem firstByte_cases {m n : Nat} (less : m < n) (bounded : n < 1114112) :
    firstByte m < firstByte n ∨ firstByte m = firstByte n ∧ bytesBehind m = bytesBehind n ∧
      m % Nat.pow 64 (bytesBehind n) < n % Nat.pow 64 (bytesBehind n) := by
  unfold firstByte bytesBehind
  split_ifs <;> simp only [Nat.pow_eq, Nat.reducePow, true_and] <;> omega

/-- A smaller character has smaller bytes, whatever follows. -/
theorem utf8EncodeChar_lt {c d : Char} (less : c < d) (x y : List UInt8) :
    String.utf8EncodeChar c ++ x < String.utf8EncodeChar d ++ y := by
  have codes : c.toNat < d.toNat := UInt32.lt_iff_toNat_lt.mp less
  rw [utf8EncodeChar_eq, utf8EncodeChar_eq, List.cons_append, List.cons_append,
    ofNat_cons_lt_iff (firstByte_lt (code_lt c)) (firstByte_lt (code_lt d))]
  rcases firstByte_cases codes (code_lt d) with first | ⟨first, count, rest⟩
  · exact .inl first
  · rw [count]
    exact .inr ⟨first, continued_lt rest x y⟩

theorem flatMap_utf8EncodeChar_lt {a b : List Char} (less : a < b) :
    a.flatMap String.utf8EncodeChar < b.flatMap String.utf8EncodeChar := by
  induction a generalizing b with
  | nil =>
    cases b with
    | nil => cases less
    | cons d b =>
      rw [List.flatMap_cons, utf8EncodeChar_eq]
      exact List.nil_lt_cons _ _
  | cons c a ih =>
    cases b with
    | nil => cases less
    | cons d b =>
      rw [List.flatMap_cons, List.flatMap_cons]
      rcases List.cons_lt_cons_iff.mp less with first | ⟨rfl, rest⟩
      · exact utf8EncodeChar_lt first _ _
      · exact List.append_left_lt (ih rest)

theorem utf8_lt {a b : String} (less : a < b) : utf8 a < utf8 b := by
  rw [utf8_eq_flatMap, utf8_eq_flatMap]
  exact flatMap_utf8EncodeChar_lt (String.lt_iff_toList_lt.mp less)

/-- The order of texts is that of their bytes. -/
theorem utf8_lt_iff {a b : String} : utf8 a < utf8 b ↔ a < b := by
  refine ⟨fun less => ?_, utf8_lt⟩
  rcases lt_trichotomy a b with before | rfl | behind
  · exact before
  · exact absurd less (List.lt_irrefl _)
  · exact absurd less (List.lt_asymm (utf8_lt behind))

end BrowserWait.Text
