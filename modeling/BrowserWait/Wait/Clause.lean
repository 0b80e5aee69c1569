import BrowserWait.Element.Finder
import BrowserWait.Page.Browser
import BrowserWait.Page.Script

/-!
# Clauses

The single conditions a wait is made of. A clause that does not hold yet is false, not a failure: a missing element
is taken for false where the clause is about its presence or its visibility. An attribute of a missing element is a
failure of its own, and any other failure of the browser is passed on.
-/

namespace BrowserWait

/-- A named test of an attribute's value against a reference. -/
structure Comparison where
  name : String
  holds : (value reference : String) → Bool

namespace Comparison

/-- The comparison used unless told otherwise. -/
def equality : Comparison := ⟨"eq", (· == ·)⟩

end Comparison

/-- A single condition on a browser. -/
inductive Clause (σ : Type) where
  | elementPresent (locator : Locator)
  | elementNotPresent (locator : Locator)
  | elementVisible (locator : Locator)
  | elementNotVisible (locator : Locator)
  | attributeHolds (finder : Finder) (name reference : String) (comparison : Comparison)
  | ajaxPending (flavor : AjaxFlavor)
  | ajaxComplete (flavor : AjaxFlavor)
  | pageLoading
  | pageReady
  | script (expression : String)
  | callable (name : String) (check : Action σ Bool)

namespace Clause

variable {σ : Type}

/-- The label of a clause; those without arguments of their own are labelled by their script. -/
def describe : Clause σ → String
  | elementPresent locator => "element:" ++ locator.text
  | elementNotPresent locator => "!element:" ++ locator.text
  | elementVisible locator => "visible:" ++ locator.text
  | elementNotVisible locator => "!visible:" ++ locator.text
  | attributeHolds finder name reference comparison =>
    "evaluate_element(" ++ finder.text ++ ", " ++ name ++ ", " ++ reference ++ ", " ++ comparison.name ++ ")"
  | ajaxPending flavor => "js:" ++ flavor.pending
  | ajaxComplete flavor => "js:" ++ flavor.complete
  | pageLoading => "js:" ++ PageScript.loading
  | pageReady => "js:" ++ PageScript.ready
  | script expression => "js:" ++ expression
  | callable name _ => name

/-! ## Evaluation -/

/-- The outcome of a look at an element, where the given kinds of failure mean that the answer is no. -/
def foldMissing (kinds : List Status) : Except Failure Bool → Except Failure Bool
  | .error failure => if kinds.any failure.hasStatus then .ok false else .error failure
  | .ok shown => .ok shown

variable [Browser σ]

/-- Whether a lookup succeeds; a missing element is the only failure that means no. -/
def present (locator : Locator) : Action σ Bool :=
  Action.mapOutcome (foldMissing [.noSuchElement]) do
    let _ ← Browser.findElement locator
    return true

/-- Whether a lookup succeeds and the element is displayed. -/
def visible (locator : Locator) : Action σ Bool :=
  Action.mapOutcome (foldMissing [.elementNotVisible, .noSuchElement]) do
    let element ← Browser.findElement locator
    Browser.isDisplayed element

/-- Whether the value of an expression is true for the page. -/
def truthy (expression : String) : Action σ Bool := do
  let value ← Browser.evaluateScript (PageScript.returning expression)
  return value.isTruthy

/-- The element of a finder; a missing one is reported under the finder's text. -/
def resolve (finder : Finder) : Action σ ElementId :=
  Action.mapOutcome
    (fun
      | .error failure =>
        .error (if failure.hasStatus .noSuchElement then .unknownElement finder.text else failure)
      | found => found)
    (Browser.findElement finder.locator)

/-- Whether a clause holds on the browser as it is now. -/
def evaluate : Clause σ → Action σ Bool
  | elementPresent locator => present locator
  | elementNotPresent locator => do return !(← present locator)
  | elementVisible locator => visible locator
  | elementNotVisible locator => do return !(← visible locator)
  | attributeHolds finder name reference comparison => do
    let element ← resolve finder
    let value ← Browser.attribute? element name
    return value.any (comparison.holds · reference)
  | ajaxPending flavor => truthy flavor.pending
  | ajaxComplete flavor => truthy flavor.complete
  | pageLoading => truthy PageScript.loading
  | pageReady => truthy PageScript.ready
  | script expression => truthy expression
  | callable _ check => check

end Clause

end BrowserWait
