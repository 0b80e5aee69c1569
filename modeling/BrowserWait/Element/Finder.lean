import BrowserWait.Element.Locator
import BrowserWait.Json.Printer

/-!
# Finders

What a wait is told to look for: a selector text, or an element that brings its own locator. The two protocols read
a selector differently: JSONWire lookups honour a strategy in front of it, RC scripts take all of it for CSS.
-/

namespace BrowserWait

/-- What a wait looks for. -/
inductive Finder where
  | selector (text : String)
  | element (locator : Locator)
deriving DecidableEq, Repr

namespace Finder

/-- The locator for JSONWire lookups. -/
def locator : Finder → Locator
  | selector text => .ofText text
  | element locator => locator

/-- The locator text for RC scripts. -/
def rcLocator : Finder → String
  | selector text => "css=" ++ text
  | element locator => locator.text

/-- The text of a finder in messages. -/
def text : Finder → String
  | selector text => text
  | element locator => locator.text

/-- The member that holds an element's locator. -/
def locatorKey : String := "_locator"

/-- The element of a locator given as a text, or as a keyword and a value. -/
def ofLocatorJson? : Json → Option Finder
  | .string text => some (element (.ofText text))
  | .array [.string keyword, .string value] => do return element ⟨← Strategy.ofKeyword? keyword, value⟩
  | _ => none

/-- The finder a value stands for: a string is a selector, an object with a locator is an element. -/
def ofJson? : Json → Option Finder
  | .string text => some (selector text)
  | value => do ofLocatorJson? (← value.member? locatorKey)

/-- The finder a value stands for; any other value is an unknown element. -/
def ofJson (value : Json) : Except Failure Finder :=
  match ofJson? value with
  | some finder => .ok finder
  | none => .error (.unknownElement value.compact)

end Finder

end BrowserWait
