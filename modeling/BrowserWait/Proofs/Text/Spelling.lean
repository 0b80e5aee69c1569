import BrowserWait.Text.Numeral
import Mathlib.Data.List.Forall2

/-!
# Spellings

Which texts stand for a number (`readUnsigned?_eq_some_iff`), and which for a name (`map_eq_iff`), such as one in any
ASCII case (`map_toLower_eq_iff`).
-/

namespace BrowserWait.Text

/-! ## Numbers -/

/-- A text denotes a number below `2 ^ 64`: in digits, with or without a plus sign before them. -/
def Denotes (text : List Char) (n : Nat) : Prop :=
  ∃ digits, (text = digits ∨ text = '+' :: digits) ∧ digits ≠ [] ∧ (∀ c ∈ digits, c.isDigit = true) ∧
    Nat.ofDigitChars 10 digits 0 = n ∧ n < wordBound

theorem digitsValue?_eq_some_iff {digits : List Char} {n : Nat} :
    digitsValue? digits = some n ↔
      digits ≠ [] ∧ (∀ c ∈ digits, c.isDigit = true) ∧ Nat.ofDigitChars 10 digits 0 = n := by
  cases digits with
  | nil => simp [digitsValue?]
  | cons c rest => simp [digitsValue?]

theorem readUnsigned?_eq_some_iff {text : List Char} {n : Nat} : readUnsigned? text = some n ↔ Denotes text n := by
  have unsigned {digits : List Char} :
      (digitsValue? digits).filter (· < wordBound) = some n ↔
        digits ≠ [] ∧ (∀ c ∈ digits, c.isDigit = true) ∧ Nat.ofDigitChars 10 digits 0 = n ∧ n < wordBound := by
    rw [Option.filter_eq_some_iff, digitsValue?_eq_some_iff, decide_eq_true_iff]
    simp only [and_assoc]
  unfold readUnsigned?
  constructor
  · intro read
    split at read
    · next rest => exact ⟨rest, .inr rfl, unsigned.mp read⟩
    · exact ⟨text, .inl rfl, unsigned.mp read⟩
  · rintro ⟨digits, rfl | rfl, filled, all, value⟩
    · split
      · next rest => exact absurd (all '+' List.mem_cons_self) (by decide)
      · exact unsigned.mpr ⟨filled, all, value⟩
    · exact unsigned.mpr ⟨filled, all, value⟩

theorem Denotes.unique {text : List Char} {m n : Nat} (first : Denotes text m) (second : Denotes text n) : m = n :=
  Option.some.inj ((readUnsigned?_eq_some_iff.mpr first).symm.trans (readUnsigned?_eq_some_iff.mpr second))

/-! ## Names -/

/-- A text spells a name when each of its characters is the name's letter there or the capital of it. -/
def Spells (name text : String) : Prop :=
  List.Forall₂ (fun letter c => c = letter ∨ c = letter.toUpper) name.toList text.toList

/-- A text is made into a name letter by letter, each letter of what stands for it. -/
theorem map_eq_iff {name text : String} {make : Char → Char} {stands : Char → Char → Prop}
    (made : ∀ letter ∈ name.toList, ∀ c, make c = letter ↔ stands letter c) :
    text.map make = name ↔ List.Forall₂ stands name.toList text.toList := by
  rw [← String.toList_inj, String.toList_map]
  generalize name.toList = letters at made
  generalize text.toList = chars
  induction letters generalizing chars with
  | nil => simp
  | cons letter more ih =>
    obtain ⟨first, rest⟩ := List.forall_mem_cons.mp made
    cases chars with
    | nil => simp
    | cons c others => rw [List.map_cons, List.cons_eq_cons, first c, ih rest others, List.forall₂_cons]

theorem toNat_toLower (c : Char) :
    c.toLower.toNat = if 65 ≤ c.toNat ∧ c.toNat ≤ 90 then c.toNat + 32 else c.toNat := by
  unfold Char.toLower
  split
  · next capital =>
    have range : 65 ≤ c.toNat ∧ c.toNat ≤ 90 := capital
    rw [if_pos range]
    change (c.val + 32).toNat = c.val.toNat + 32
    have small : c.val.toNat ≤ 90 := range.2
    rw [UInt32.toNat_add]
    exact Nat.mod_eq_of_lt (by change c.val.toNat + 32 < 4294967296; omega)
  · next other =>
    have range : ¬ (65 ≤ c.toNat ∧ c.toNat ≤ 90) := other
    rw [if_neg range]

theorem toNat_of_isLower {c : Char} (lower : c.isLower = true) : 97 ≤ c.toNat ∧ c.toNat ≤ 122 := by
  obtain ⟨least, most⟩ := (Bool.and_eq_true _ _).mp lower
  exact ⟨of_decide_eq_true least, of_decide_eq_true most⟩

theorem toNat_toUpper {c : Char} (lower : c.isLower = true) : c.toUpper.toNat + 32 = c.toNat := by
  have range : 97 ≤ c.val.toNat ∧ c.val.toNat ≤ 122 := toNat_of_isLower lower
  have letter : 'a'.val ≤ c.val ∧ c.val ≤ 'z'.val := range
  unfold Char.toUpper
  rw [dif_pos letter]
  change (c.val + 4294967264).toNat + 32 = c.val.toNat
  rw [UInt32.toNat_add]
  change (c.val.toNat + 4294967264) % 4294967296 + 32 = c.val.toNat
  omega

/-- A letter is made of itself and of its capital, and of nothing else. -/
theorem toLower_eq_iff {letter c : Char} (lower : letter.isLower = true) :
    c.toLower = letter ↔ c = letter ∨ c = letter.toUpper := by
  have range := toNat_of_isLower lower
  have capital := toNat_toUpper lower
  rw [← Char.toNat_inj, ← Char.toNat_inj, ← Char.toNat_inj, toNat_toLower]
  split <;> omega

theorem map_toLower_eq_iff {name text : String} (lower : ∀ letter ∈ name.toList, letter.isLower = true) :
    text.map Char.toLower = name ↔ Spells name text :=
  map_eq_iff fun letter member _ => toLower_eq_iff (lower letter member)

end BrowserWait.Text
