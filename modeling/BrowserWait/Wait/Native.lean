import BrowserWait.Wait.Condition
import BrowserWait.Wait.Directive
import BrowserWait.Wait.Expression
import BrowserWait.Wait.Poll

/-!
# Native waits

Waits that are evaluated as browser calls, one look per tick. Clauses are joined by AND as they are added; an OR
takes everything built so far for its left operand and the next clause for its right one. An OR with nothing in
front of it is ignored, and several in a row are one.
-/

namespace BrowserWait

/-- Where the next clause of a wait goes. -/
inductive BuildState where
  /-- It is joined to the rest by AND. -/
  | conjunction
  /-- It is the right operand of an OR whose left one is everything so far. -/
  | disjunctionPending
deriving DecidableEq, Repr

/-- A wait that is evaluated as browser calls. -/
structure NativeWait (σ : Type) where
  root : Expression (Clause σ) := .empty
  state : BuildState := .conjunction
  flavor : AjaxFlavor := .jQuery
  options : PollOptions := {}
  deferred : Option Failure := none

namespace NativeWait

variable {σ : Type}

/-- The text of a wait's expression. -/
def text (wait : NativeWait σ) : String := wait.root.text Clause.describe

/-- The wait with one clause more. -/
def append (wait : NativeWait σ) (clause : Clause σ) : NativeWait σ :=
  match wait.state with
  | .conjunction => { wait with root := wait.root.push (.leaf clause) }
  | .disjunctionPending => { wait with root := .all [.any [wait.root, .leaf clause]], state := .conjunction }

/-- The wait whose next clause is joined by OR. -/
def disjoin (wait : NativeWait σ) : NativeWait σ :=
  if wait.root.isEmpty then wait else { wait with state := .disjunctionPending }

/-- The clause of a directive; OR has none. -/
def clause? (flavor : AjaxFlavor) : Directive → Option (Clause σ)
  | .elementPresent finder => some (.elementPresent finder.locator)
  | .elementNotPresent finder => some (.elementNotPresent finder.locator)
  | .elementVisible finder => some (.elementVisible finder.locator)
  | .elementNotVisible finder => some (.elementNotVisible finder.locator)
  | .evaluateElement finder property reference comparison =>
    some (.attributeHolds finder property reference (comparison.getD .equality))
  | .ajaxPending => some (.ajaxPending flavor)
  | .ajaxComplete => some (.ajaxComplete flavor)
  | .pageLoading => some .pageLoading
  | .pageReady => some .pageReady
  | .or => none

/-- The wait with one directive more. -/
def apply (wait : NativeWait σ) (directive : Directive) : NativeWait σ :=
  match clause? wait.flavor directive with
  | some clause => wait.append clause
  | none => wait.disjoin

instance : WaitBuilder (NativeWait σ) where
  apply := apply
  fail wait failure := { wait with deferred := wait.deferred.or (some failure) }
  deferred? := deferred

variable [Browser σ]

/-- Whether the wait's expression holds now; a kept failure comes before any look at the browser. -/
def evaluate (wait : NativeWait σ) : Action σ Bool :=
  match wait.deferred with
  | some failure => throw failure
  | none => wait.root.evaluate Clause.evaluate

/-- The options of a wait that may be given a time of its own. -/
def optionsFor (wait : NativeWait σ) (timeout : Option Nat) : PollOptions :=
  { wait.options with timeout := timeout.or wait.options.timeout }

/-- Polls until the expression holds or the time is up. -/
def waitResult (wait : NativeWait σ) (timeout : Option Nat) : Action (World σ) WaitResult :=
  match wait.deferred with
  | some failure => throw failure
  | none => Poll.wait (wait.optionsFor timeout) wait.text (World.onBrowser (wait.root.evaluate Clause.evaluate))

/-- Whether the expression came to hold in time. -/
def wait (wait : NativeWait σ) (timeout : Option Nat) : Action (World σ) Bool := do
  return (← wait.waitResult timeout).success

end NativeWait

end BrowserWait
