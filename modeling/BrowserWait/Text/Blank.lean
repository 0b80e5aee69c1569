/-!
# Blank characters

The characters with the Unicode property `White_Space`, and the removal of the blanks around a text.
Trimming leaves a text that neither starts nor ends with a blank, and trimming that once more changes nothing.
-/

namespace BrowserWait.Text

/-- The characters with the property `White_Space`. -/
def isBlank (c : Char) : Bool :=
  let n := c.toNat
  (9 ≤ n && n ≤ 13) || n == 0x20 || n == 0x85 || n == 0xA0 || n == 0x1680 ||
    (0x2000 ≤ n && n ≤ 0x200A) || n == 0x2028 || n == 0x2029 || n == 0x202F || n == 0x205F || n == 0x3000

/-- A text without the blanks it starts with. -/
def trimStart (text : List Char) : List Char := text.dropWhile isBlank

/-- A text without the blanks it ends with. -/
def trimEnd (text : List Char) : List Char := (text.reverse.dropWhile isBlank).reverse

/-- A text without the blanks around it. -/
def trim (text : List Char) : List Char := trimEnd (trimStart text)

/-- A text that neither starts nor ends with a blank. -/
def Trimmed (text : List Char) : Prop :=
  (∀ c, text.head? = some c → isBlank c = false) ∧ (∀ c, text.getLast? = some c → isBlank c = false)

example : isBlank '\t' ∧ isBlank ' ' ∧ isBlank '\u00a0' ∧ isBlank '\u3000' ∧ ¬ isBlank '\u200b' := by decide

theorem trimStart_of_head {text : List Char} (starts : ∀ c, text.head? = some c → isBlank c = false) :
    trimStart text = text := by
  cases text with
  | nil => rfl
  | cons c rest => simp [trimStart, starts c rfl]

theorem trimEnd_of_last {text : List Char} (ends : ∀ c, text.getLast? = some c → isBlank c = false) :
    trimEnd text = text := by
  have kept : trimStart text.reverse = text.reverse :=
    trimStart_of_head (by simpa [List.head?_reverse] using ends)
  have kept' : text.reverse.dropWhile isBlank = text.reverse := kept
  simp [trimEnd, kept']

/-- A text without blanks around it is kept as it is. -/
theorem trim_of_trimmed {text : List Char} (trimmed : Trimmed text) : trim text = text := by
  rw [trim, trimStart_of_head trimmed.1, trimEnd_of_last trimmed.2]

/-- Only the blanks around a text are removed. -/
theorem trim_surrounded {before text after : List Char} (blank : ∀ c ∈ before ++ after, isBlank c = true)
    (trimmed : Trimmed text) (filled : text ≠ []) : trim (before ++ text ++ after) = text := by
  have front : ∀ c ∈ before, isBlank c = true := fun c member => blank c (List.mem_append_left _ member)
  have back : ∀ c ∈ after.reverse, isBlank c = true :=
    fun c member => blank c (List.mem_append_right _ (List.mem_reverse.mp member))
  have starts : trimStart (before ++ text ++ after) = text ++ after := by
    rw [trimStart, List.append_assoc, List.dropWhile_append_of_pos front]
    refine trimStart_of_head fun c first => trimmed.1 c ?_
    cases text with
    | nil => exact absurd rfl filled
    | cons d text => exact first
  have ends : (text ++ after).reverse.dropWhile isBlank = text.reverse.dropWhile isBlank := by
    rw [List.reverse_append, List.dropWhile_append_of_pos back]
  rw [trim, starts, trimEnd, ends]
  exact trimEnd_of_last trimmed.2

end BrowserWait.Text
