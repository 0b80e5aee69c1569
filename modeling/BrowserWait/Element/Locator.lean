import BrowserWait.Document.Node
import BrowserWait.Failure.Basic
import BrowserWait.Text.Split

/-!
# Locators

A locator names page elements by a strategy and a value, written `strategy=value`. Text without a strategy in front
is a CSS selector, so every text is read as some locator; a locator is read back from its text exactly when its value
is one line of at least one character.
-/

namespace BrowserWait

/-- How a locator finds elements. -/
inductive Strategy where
  | css
  | xPath
  | id
  | name
  | link
  | value
  | label
deriving DecidableEq, Repr

namespace Strategy

/-- Every strategy. -/
def all : List Strategy := [css, xPath, id, name, link, value, label]

/-- The word for a strategy in front of a locator's value. -/
def keyword : Strategy → String
  | css => "css"
  | xPath => "xpath"
  | id => "id"
  | name => "name"
  | link => "link"
  | value => "value"
  | label => "label"

/-- The JSONWire name of a strategy; the two for select options have none. -/
def wireName? : Strategy → Option String
  | css => some "css selector"
  | xPath => some "xpath"
  | id => some "id"
  | name => some "name"
  | link => some "link text"
  | value | label => none

theorem wireName?_eq_none_iff {strategy : Strategy} :
    strategy.wireName? = none ↔ strategy = value ∨ strategy = label := by
  cases strategy <;> simp [wireName?]

/-- The strategy of a keyword. -/
def ofKeyword? (keyword : String) : Option Strategy := all.find? (·.keyword == keyword)

/-- The strategy of a keyword; any other text is an invalid locator. -/
def ofText (text : String) : Except Failure Strategy :=
  match ofKeyword? text with
  | some strategy => .ok strategy
  | none => .error (.invalidLocator text)

/-- Reads a strategy from a document. -/
def ofNode? {ν : Type} [Node ν] (node : ν) : Option Strategy := do ofKeyword? (← Node.choice? node)

@[simp] theorem ofKeyword?_keyword (strategy : Strategy) : ofKeyword? strategy.keyword = some strategy := by
  cases strategy <;> decide

theorem eq_keyword_of_ofKeyword? {keyword : String} {strategy : Strategy}
    (found : ofKeyword? keyword = some strategy) : keyword = strategy.keyword := by
  unfold ofKeyword? at found
  have holds := List.find?_some found
  simp only [beq_iff_eq] at holds
  exact holds.symm

end Strategy

/-- What names an element: how it is looked for, and by which value. -/
structure Locator where
  strategy : Strategy
  value : String
deriving DecidableEq, Repr

namespace Locator

/-- A locator by CSS selector. -/
def css (selector : String) : Locator := ⟨.css, selector⟩

/-- The strategy and the value of a text that starts with a keyword and has a one-line value. -/
def split? (text : List Char) : Option (Strategy × List Char) := do
  let (front, value) ← Text.cut? ['='] text
  let strategy ← Strategy.ofKeyword? (String.ofList front)
  if value.isEmpty || value.contains '\n' then none else some (strategy, value)

/-- Whether a text starts with a strategy. -/
def hasStrategy (text : String) : Bool := (split? text.toList).isSome

/-- The locator a text stands for. -/
def ofText (text : String) : Locator :=
  match split? text.toList with
  | some (strategy, value) => ⟨strategy, String.ofList value⟩
  | none => css text

/-- The text of a locator. -/
def text (locator : Locator) : String := locator.strategy.keyword ++ "=" ++ locator.value

/-- The JSONWire strategy name and value of a locator. -/
def toWire (locator : Locator) : Except Failure (String × String) :=
  match locator.strategy.wireName? with
  | some name => .ok (name, locator.value)
  | none => .error (.invalidLocator locator.text)

/-- Reads a locator from a document. -/
def ofNode? {ν : Type} [Node ν] (node : ν) : Option Locator := do
  let fields ← Node.fields? node
  guard (fields.fits 2)
  return {
    strategy := ← fields.required Strategy.ofNode? 0 ["strategy"]
    value := ← fields.required Node.text? 1 ["value"] }

end Locator

end BrowserWait
