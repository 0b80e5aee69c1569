import BrowserWait.Page.Browser
import BrowserWait.Page.Script
import BrowserWait.Page.Table
import BrowserWait.Text.Split
import BrowserWait.Wait.Poll

/-!
# Page models

A page small enough to describe: which locator texts find an element and from which lookup on, which elements are
hidden, what attributes and script expressions are worth, and whether the page is marked. The model is a browser that
counts lookups and remembers every call made to it.
-/

namespace BrowserWait

/-- A described page. -/
structure PageModel where
  /-- The locator texts that find an element. -/
  elements : List String := []
  /-- The elements that are not displayed. -/
  hidden : List String := []
  /-- The locator texts that find an element from a certain lookup on. -/
  appearFrom : Table String Nat := []
  /-- The locator texts whose lookups fail. -/
  lookupFailures : Table String Status := []
  /-- The attributes of elements. -/
  attributes : Table (String × String) String := []
  /-- The values of script expressions. -/
  scriptResults : Table String Json := []
  /-- The requests in flight, if the page has an AJAX library. -/
  ajaxActive : Option Nat := none
  /-- Whether the sentinel is set. -/
  marked : Bool := false
  /-- The markup of the page. -/
  source : String := ""
  /-- The time a wait takes, in milliseconds. -/
  timeout : Nat := defaultTimeout
  /-- How often each locator text was looked up. -/
  lookups : Table String Nat := []
  /-- The scripts evaluated so far. -/
  scripts : List String := []
  /-- The calls made so far. -/
  calls : List String := []
deriving Repr, Inhabited

namespace PageModel

/-- The page with one call more remembered. -/
def remember (call : String) (page : PageModel) : PageModel := { page with calls := page.calls ++ [call] }

/-- The page with one element more. -/
def insertElement (key : String) (page : PageModel) : PageModel :=
  { page with elements := if page.elements.contains key then page.elements else page.elements ++ [key] }

/-- The page without an element, also one that was still to appear. -/
def removeElement (key : String) (page : PageModel) : PageModel :=
  { page with elements := page.elements.filter (· != key), appearFrom := page.appearFrom.erase key }

/-- The number of lookups of a locator text. -/
def lookupCount (page : PageModel) (key : String) : Nat := (page.lookups.get? key).getD 0

/-- The number of scripts evaluated. -/
def scriptCount (page : PageModel) : Nat := page.scripts.length

/-- Whether a call with the given beginning was made. -/
def wasCalled (page : PageModel) (beginning : String) : Bool :=
  page.calls.any fun call => (Text.after? beginning.toList call.toList).isSome

/-! ## Scripts -/

/-- What the model takes off the front of a script. The text is its own, not that of `PageScript.returning`: a script
that is wrapped in another way is not undone. -/
def wrapFront : String := "return (function() \x7b var value = "

/-- What the model takes off the back of a script. -/
def wrapBack : String := "; return value; \x7d)()"

/-- The expression a script returns the value of; a script of another form is taken for its own expression. -/
def unwrapped (script : String) : String :=
  match (Text.after? wrapFront.toList script.toList).bind (Text.before? wrapBack.toList) with
  | some expression => String.ofList expression
  | none => script

/-- The number of requests in flight that a flavor's library counts; the page has no library but jQuery. -/
def activeFor (page : PageModel) : AjaxFlavor → Option Nat
  | .jQuery => page.ajaxActive
  | .prototype | .dojo => none

/-- The value of an expression over a flavor's counter. -/
def ajaxValue? (page : PageModel) (expression : String) (flavor : AjaxFlavor) : Option Bool :=
  if expression = flavor.complete then some ((page.activeFor flavor).all (· == 0))
  else if expression = flavor.pending then some ((page.activeFor flavor).any (· != 0))
  else none

/-- The value of an expression: the sentinel's and the counters' first, then the given ones, else null. -/
def expressionValue (page : PageModel) (expression : String) : Json :=
  if expression = PageScript.loading then .bool page.marked
  else if expression = PageScript.ready then .bool !page.marked
  else
    match AjaxFlavor.all.findSome? (page.ajaxValue? expression) with
    | some value => .bool value
    | none => (page.scriptResults.get? expression).getD .null

/-! ## The page as a browser -/

/-- Evaluates a script; the statement that marks the page does so. -/
def evaluateScript (script : String) (page : PageModel) : Except Failure Json × PageModel :=
  let page := { page.remember ("evaluate_script:" ++ script) with scripts := page.scripts ++ [script] }
  if script = PageScript.mark then (.ok .null, { page with marked := true })
  else (.ok (page.expressionValue (unwrapped script)), page)

/-- Whether an element is there at a lookup with the given number. -/
def isPresent (page : PageModel) (key : String) (lookup : Nat) : Bool :=
  page.elements.contains key || (page.appearFrom.get? key).any (· ≤ lookup)

/-- Looks an element up; its locator text is its reference. -/
def findElement (locator : Locator) (page : PageModel) : Except Failure ElementId × PageModel :=
  let key := locator.text
  let lookup := page.lookupCount key + 1
  let page := { page.remember ("find_element:" ++ key) with lookups := page.lookups.set key lookup }
  match page.lookupFailures.get? key with
  | some status => (.error (.ofAnswer status none), page)
  | none =>
    if page.isPresent key lookup then (.ok ⟨key⟩, page)
    else (.error (.ofAnswer .noSuchElement (some ("no element matches " ++ key))), page)

/-- Whether an element is not hidden. -/
def isDisplayed (element : ElementId) (page : PageModel) : Except Failure Bool × PageModel :=
  (.ok !page.hidden.contains element.text, page.remember ("is_element_displayed:" ++ element.text))

/-- An attribute of an element. -/
def attribute? (element : ElementId) (name : String) (page : PageModel) :
    Except Failure (Option String) × PageModel :=
  (.ok (page.attributes.get? (element.text, name)),
    page.remember ("element_attribute:" ++ element.text ++ "." ++ name))

instance : Browser PageModel where
  evaluateScript script := .ofPerform (evaluateScript script)
  findElement locator := .ofPerform (findElement locator)
  isDisplayed element := .ofPerform (isDisplayed element)
  attribute? element name := .ofPerform (attribute? element name)
  pageSource := .ofPerform fun page => (.ok page.source, page.remember "page_source")
  currentTimeout := timeout

/-- Unwrapping undoes the wrapping of every expression. -/
theorem unwrapped_returning (expression : String) : unwrapped (PageScript.returning expression) = expression := by
  have front : Text.after? wrapFront.toList (PageScript.returning expression).toList =
      some (expression.toList ++ wrapBack.toList) := by
    rw [Text.after?_eq_some_iff, PageScript.returning, show PageScript.wrapFront = wrapFront from rfl,
      show PageScript.wrapBack = wrapBack from rfl]
    simp [String.toList_append]
  have back : Text.before? wrapBack.toList (expression.toList ++ wrapBack.toList) = some expression.toList := by
    rw [Text.before?_eq_some_iff]
  rw [unwrapped, front, Option.bind_some, back]
  exact String.ofList_toList

end PageModel

end BrowserWait
