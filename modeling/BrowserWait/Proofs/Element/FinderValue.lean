import BrowserWait.Element.Finder
import BrowserWait.Proofs.Element.LocatorText

/-!
# Finders and the values they stand in

A string is a selector, and an object that holds a locator is an element, whether it holds the locator's text or the
strategy and the value apart. `finder_values` says which values are read, that any other one is refused under its own
text, where the two ways to hold a locator agree, and where the two protocols look for the same text.
-/

namespace BrowserWait

namespace Finder

/-- The values that stand for a finder. -/
inductive StandsFor : Json → Finder → Prop where
  | selector (text : String) : StandsFor (.string text) (.selector text)
  | located {members : List (String × Json)} {text : String} (held : members.lookup "_locator" = some (.string text)) :
    StandsFor (.object members) (.element (.ofText text))
  | apart {members : List (String × Json)} {strategy : Strategy} {value : String}
    (held : members.lookup "_locator" = some (.array [.string strategy.keyword, .string value])) :
    StandsFor (.object members) (.element ⟨strategy, value⟩)

/-! ## Reading values -/

theorem ofLocatorJson?_cases {held : Json} {finder : Finder} (read : ofLocatorJson? held = some finder) :
    (∃ text, held = .string text ∧ finder = .element (.ofText text)) ∨
      ∃ strategy : Strategy, ∃ value, held = .array [.string strategy.keyword, .string value] ∧
        finder = .element ⟨strategy, value⟩ := by
  unfold ofLocatorJson? at read
  split at read
  · next text => exact .inl ⟨text, rfl, by simpa using read.symm⟩
  · next keyword value =>
    cases known : Strategy.ofKeyword? keyword with
    | none => simp [known] at read
    | some strategy =>
      have keyed := Strategy.eq_keyword_of_ofKeyword? known
      subst keyed
      exact .inr ⟨strategy, value, rfl, by simpa using read.symm⟩
  · simp at read

theorem ofLocatorJson?_apart (strategy : Strategy) (value : String) :
    ofLocatorJson? (.array [.string strategy.keyword, .string value]) = some (.element ⟨strategy, value⟩) := by
  simp [ofLocatorJson?]

theorem ofJson?_eq_some_iff (value : Json) (finder : Finder) :
    ofJson? value = some finder ↔ StandsFor value finder := by
  constructor
  · intro read
    cases value with
    | string text =>
      obtain rfl : selector text = finder := by simpa [ofJson?] using read
      exact .selector text
    | object members =>
      have lookup : (members.lookup locatorKey).bind ofLocatorJson? = some finder := read
      obtain ⟨held, there, read⟩ := Option.bind_eq_some_iff.mp lookup
      rcases ofLocatorJson?_cases read with ⟨text, rfl, rfl⟩ | ⟨strategy, value, rfl, rfl⟩
      · exact .located there
      · exact .apart there
    | _ => simp [ofJson?, Json.member?] at read
  · intro stands
    cases stands with
    | selector text => rfl
    | located held => simp [ofJson?, Json.member?, locatorKey, held, ofLocatorJson?]
    | apart held => simp [ofJson?, Json.member?, locatorKey, held, ofLocatorJson?_apart]

theorem ofJson_eq_ok_iff (value : Json) (finder : Finder) : ofJson value = .ok finder ↔ StandsFor value finder := by
  rw [← ofJson?_eq_some_iff, ofJson]
  cases ofJson? value <;> simp

theorem ofJson_cases (value : Json) :
    (∃ finder, ofJson value = .ok finder) ∨ ofJson value = .error (.unknownElement value.compact) := by
  rw [ofJson]
  cases ofJson? value <;> simp

/-- Every value that stands for no finder is refused under its text. -/
theorem ofJson_eq_error_iff (value : Json) (failure : Failure) :
    ofJson value = .error failure ↔ (∀ finder, ¬ StandsFor value finder) ∧ failure = .unknownElement value.compact := by
  simp only [← ofJson_eq_ok_iff]
  rcases ofJson_cases value with ⟨finder, read⟩ | refused
  · simp [read]
  · simp [refused, eq_comm]

/-! ## Two ways to hold a locator -/

/-- A locator's text stands for the same element as its two parts exactly when the value is a line that is not
empty. -/
theorem encodings_agree_iff (strategy : Strategy) (value : String) :
    (∃ finder, ofJson (.object [("_locator", .string (strategy.keyword ++ "=" ++ value))]) = .ok finder ∧
        ofJson (.object [("_locator", .array [.string strategy.keyword, .string value])]) = .ok finder) ↔
      value ≠ "" ∧ '\n' ∉ value.toList := by
  let locator : Locator := ⟨strategy, value⟩
  have text : ofJson (.object [("_locator", .string (strategy.keyword ++ "=" ++ value))]) =
      .ok (.element (.ofText locator.text)) := (ofJson_eq_ok_iff _ _).mpr (.located rfl)
  have parts : ofJson (.object [("_locator", .array [.string strategy.keyword, .string value])]) =
      .ok (.element locator) := (ofJson_eq_ok_iff _ _).mpr (.apart rfl)
  rw [text, parts, ← Locator.ofText_text_iff locator]
  constructor
  · rintro ⟨finder, first, second⟩
    have same := Except.ok.inj (first.trans second.symm)
    exact Finder.element.inj same
  · intro back
    exact ⟨.element locator, by rw [back], rfl⟩

/-! ## Two protocols -/

/-- JSONWire lookups and RC scripts look for the same text unless a selector starts with a strategy. -/
theorem text_locator_eq_iff (finder : Finder) :
    finder.locator.text = finder.rcLocator ↔
      (∃ locator, finder = .element locator) ∨ ∃ text, finder = .selector text ∧ Locator.hasStrategy text = false := by
  cases finder with
  | element locator => simp [Finder.locator, rcLocator]
  | selector text =>
    -- RC puts a strategy in front of every selector
    have longer : text ≠ "css=" ++ text := by
      intro same
      have length := congrArg (fun text => text.toList.length) same
      simp [String.toList_append] at length
      omega
    rw [Finder.locator, rcLocator, Locator.text_ofText]
    by_cases starts : Locator.hasStrategy text = true
    · simp [starts, longer]
    · simp [starts]

/-- What values are read as finders, and what both protocols make of a finder: a value is read exactly when it stands
for a finder and is refused under its text otherwise; a locator's text and its two parts are one element exactly for a
value of one line that is not empty; and the two protocols look for one text exactly for elements and for selectors that
do not start with a strategy. -/
theorem finder_values :
    (∀ value finder, ofJson value = .ok finder ↔ StandsFor value finder) ∧
      (∀ value failure, ofJson value = .error failure ↔
        (∀ finder, ¬ StandsFor value finder) ∧ failure = .unknownElement value.compact) ∧
      (∀ (strategy : Strategy) (value : String),
        (∃ finder, ofJson (.object [("_locator", .string (strategy.keyword ++ "=" ++ value))]) = .ok finder ∧
            ofJson (.object [("_locator", .array [.string strategy.keyword, .string value])]) = .ok finder) ↔
          value ≠ "" ∧ '\n' ∉ value.toList) ∧
      ∀ finder : Finder, finder.locator.text = finder.rcLocator ↔
        (∃ locator, finder = .element locator) ∨
          ∃ text, finder = .selector text ∧ Locator.hasStrategy text = false :=
  ⟨ofJson_eq_ok_iff, ofJson_eq_error_iff, encodings_agree_iff, text_locator_eq_iff⟩

end Finder

end BrowserWait
