import BrowserWait.Element.Locator

/-!
# Locators and their texts

A text that starts with a strategy is the text of the locator it stands for; to any other text the CSS strategy is
added. Of all locators the ones whose value is one line of at least one character are read back from their text
(`locator_texts`).
-/

namespace BrowserWait

theorem Strategy.equals_not_mem_keyword (strategy : Strategy) : '=' ∉ strategy.keyword.toList := by
  cases strategy <;> decide

theorem Strategy.exists_keyword_iff {Holds : String → Prop} :
    (∃ keyword ∈ ["css", "xpath", "id", "name", "link", "value", "label"], Holds keyword) ↔
      ∃ strategy : Strategy, Holds strategy.keyword := by
  constructor
  · rintro ⟨keyword, member, holds⟩
    have known : keyword ∈ Strategy.all.map Strategy.keyword := member
    obtain ⟨strategy, _, rfl⟩ := List.mem_map.mp known
    exact ⟨strategy, holds⟩
  · rintro ⟨strategy, holds⟩
    refine ⟨strategy.keyword, ?_, holds⟩
    cases strategy <;> simp [Strategy.keyword]

namespace Locator

/-! ## Texts that start with a strategy -/

theorem split?_eq_some_iff {text value : List Char} {strategy : Strategy} :
    split? text = some (strategy, value) ↔
      text = strategy.keyword.toList ++ '=' :: value ∧ value ≠ [] ∧ '\n' ∉ value := by
  constructor
  · intro found
    obtain ⟨⟨front, rest⟩, cut, found⟩ := Option.bind_eq_some_iff.mp found
    obtain ⟨known, keyed, found⟩ := Option.bind_eq_some_iff.mp found
    obtain ⟨whole, _⟩ := Text.cut?_eq_some_iff.mp cut
    have keyword : front = known.keyword.toList := by
      rw [← Strategy.eq_keyword_of_ofKeyword? keyed, String.toList_ofList]
    by_cases line : (rest.isEmpty || rest.contains '\n') = true
    · rw [if_pos line] at found
      cases found
    · rw [if_neg line] at found
      cases found
      rw [Bool.or_eq_true, not_or] at line
      exact ⟨by rw [whole, keyword], by simpa using line.1, by simpa using line.2⟩
  · rintro ⟨rfl, filled, line⟩
    have cut := Text.cut?_append strategy.equals_not_mem_keyword value
    simp [split?, cut, String.ofList_toList, filled, line]

theorem toList_text (locator : Locator) :
    locator.text.toList = locator.strategy.keyword.toList ++ '=' :: locator.value.toList := by
  simp [text, String.toList_append]

theorem split?_text {locator : Locator} (filled : locator.value ≠ "") (line : '\n' ∉ locator.value.toList) :
    split? locator.text.toList = some (locator.strategy, locator.value.toList) :=
  split?_eq_some_iff.mpr ⟨locator.toList_text, mt String.toList_eq_nil_iff.mp filled, line⟩

/-- A text starts with a strategy when a keyword, an equals sign and a line that is not empty make it up. -/
theorem hasStrategy_iff (text : String) :
    hasStrategy text = true ↔
      ∃ strategy : Strategy, ∃ value : String, text = strategy.keyword ++ "=" ++ value ∧ value ≠ "" ∧
        '\n' ∉ value.toList := by
  rw [hasStrategy, Option.isSome_iff_exists]
  constructor
  · rintro ⟨⟨strategy, value⟩, found⟩
    obtain ⟨whole, filled, line⟩ := split?_eq_some_iff.mp found
    refine ⟨strategy, String.ofList value, ?_, mt String.ofList_eq_empty_iff.mp filled, by rwa [String.toList_ofList]⟩
    rw [← String.toList_inj, whole]
    simp [String.toList_append]
  · rintro ⟨strategy, value, rfl, filled, line⟩
    have found : split? (Locator.text ⟨strategy, value⟩).toList = some (strategy, value.toList) := split?_text filled line
    exact ⟨_, found⟩

/-! ## Reading and writing -/

theorem ofText_cases (text : String) :
    (split? text.toList = none ∧ ofText text = css text) ∨
      ∃ strategy value, split? text.toList = some (strategy, value) ∧ ofText text = ⟨strategy, String.ofList value⟩ := by
  rw [ofText]
  cases found : split? text.toList with
  | none => exact .inl ⟨rfl, rfl⟩
  | some parts => exact .inr ⟨parts.1, parts.2, rfl, rfl⟩

theorem text_ofText (text : String) : (ofText text).text = if hasStrategy text then text else "css=" ++ text := by
  rw [hasStrategy]
  rcases ofText_cases text with ⟨none, read⟩ | ⟨strategy, value, found, read⟩
  · rw [read, none]
    rfl
  · obtain ⟨whole, _, _⟩ := split?_eq_some_iff.mp found
    rw [read, found, Option.isSome_some, if_pos rfl, ← String.toList_inj, whole, toList_text, String.toList_ofList]

theorem value_ofText_ne {text : String} (filled : text ≠ "") : (ofText text).value ≠ "" := by
  rcases ofText_cases text with ⟨_, read⟩ | ⟨strategy, value, found, read⟩
  · rw [read]
    exact filled
  · rw [read]
    exact mt String.ofList_eq_empty_iff.mp (split?_eq_some_iff.mp found).2.1

/-- A locator is read back from its text exactly when its value is a line that is not empty. -/
theorem ofText_text_iff (locator : Locator) :
    ofText locator.text = locator ↔ locator.value ≠ "" ∧ '\n' ∉ locator.value.toList := by
  constructor
  · intro back
    rcases ofText_cases locator.text with ⟨_, read⟩ | ⟨strategy, value, found, read⟩
    · -- otherwise the whole text is the value, which is shorter than the text
      have value : locator.text = locator.value := congrArg Locator.value (read.symm.trans back)
      have length := congrArg List.length (value ▸ locator.toList_text)
      rw [List.length_append, List.length_cons] at length
      omega
    · obtain ⟨_, filled, line⟩ := split?_eq_some_iff.mp found
      rw [← back, read]
      exact ⟨mt String.ofList_eq_empty_iff.mp filled, by rwa [String.toList_ofList]⟩
  · rintro ⟨filled, line⟩
    rw [ofText, split?_text filled line]
    exact congrArg (Locator.mk locator.strategy) String.ofList_toList

/-- What the reading and the writing of locators do to each other: the text of what a text stands for, the texts that
start with a strategy, and the locators that are read back. -/
theorem locator_texts :
    (∀ text : String, (ofText text).text = if hasStrategy text then text else "css=" ++ text) ∧
      (∀ text : String, hasStrategy text = true ↔
        ∃ keyword ∈ ["css", "xpath", "id", "name", "link", "value", "label"], ∃ value : String,
          text = keyword ++ "=" ++ value ∧ value ≠ "" ∧ '\n' ∉ value.toList) ∧
      ∀ locator : Locator, ofText locator.text = locator ↔ locator.value ≠ "" ∧ '\n' ∉ locator.value.toList := by
  refine ⟨text_ofText, fun text => ?_, ofText_text_iff⟩
  rw [hasStrategy_iff, Strategy.exists_keyword_iff]

end Locator

end BrowserWait
