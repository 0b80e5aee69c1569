import BrowserWait.Text.Blank
import BrowserWait.Text.Numeral
import BrowserWait.Wait.Clause

/-!
# Conditions

The condition texts a wait can be asked for, such as `page`, `element:#menu` or `duration:500`. A condition's text
is read back as the same condition, unless a locator in it has a value that no text gives.
-/

namespace BrowserWait

/-- What to wait for, as one text says it. -/
inductive Condition where
  /-- Nothing. -/
  | none
  /-- A fresh document. -/
  | page
  /-- No AJAX request in flight. -/
  | ajax
  /-- A script value that is true. -/
  | script (expression : String)
  /-- An element that is there. -/
  | element (locator : Locator)
  /-- An element that is not there. -/
  | notElement (locator : Locator)
  /-- An element that is displayed. -/
  | visible (locator : Locator)
  /-- An element that is hidden or not there. -/
  | notVisible (locator : Locator)
  /-- Time: the given milliseconds, or as long as the wait may take. -/
  | duration (ms : Option Nat)
deriving DecidableEq, Repr

namespace Condition

/-- Whether there is nothing to wait for. -/
def isNoop (condition : Condition) : Bool := condition == none

/-- The clause of a condition; nothing and time have none. -/
def clause? {σ : Type} (flavor : AjaxFlavor) : Condition → Option (Clause σ)
  | none | duration _ => .none
  | page => some .pageReady
  | ajax => some (.ajaxComplete flavor)
  | script expression => some (.script expression)
  | element locator => some (.elementPresent locator)
  | notElement locator => some (.elementNotPresent locator)
  | visible locator => some (.elementVisible locator)
  | notVisible locator => some (.elementNotVisible locator)

/-- The text of a condition. -/
def text : Condition → String
  | none => "none"
  | page => "page"
  | ajax => "ajax"
  | script expression => "js:" ++ expression
  | element locator => "element:" ++ locator.text
  | notElement locator => "!element:" ++ locator.text
  | visible locator => "visible:" ++ locator.text
  | notVisible locator => "!visible:" ++ locator.text
  | duration .none => "duration"
  | duration (some ms) => "duration:" ++ toString ms

/-! ## Reading -/

/-- The condition on the locator a text stands for; there has to be a text. -/
def target? (make : Locator → Condition) (rest : List Char) : Option Condition :=
  if rest.isEmpty then .none else some (make (.ofText (String.ofList rest)))

/-- The words in front of a condition's argument, each with the reading of that argument. -/
def heads : List (String × (List Char → Option Condition)) :=
  [("js:", fun rest => some (script (String.ofList rest))),
    ("!element:", target? notElement),
    ("element:", target? element),
    ("!visible:", target? notVisible),
    ("visible:", target? visible),
    ("duration:", fun rest => (Text.readUnsigned? (Text.trim rest)).map fun ms => duration (some ms))]

/-- The condition of a text with an argument. -/
def withArgument? (text : List Char) : Option Condition := do
  let (rest, read) ← heads.findSome? fun (head, read) => (Text.after? head.toList text).map (·, read)
  read rest

/-- The condition of a text. -/
def ofText? (text : String) : Option Condition :=
  if text = "" ∨ text = "none" then some none
  else if text = "page" then some page
  else if text = "ajax" then some ajax
  else if text = "duration" then some (duration .none)
  else withArgument? text.toList

/-- The condition of a text; any other text is an invalid condition. -/
def ofText (text : String) : Except Failure Condition :=
  match ofText? text with
  | some condition => .ok condition
  | .none => .error (.invalidCondition text)

end Condition

end BrowserWait
