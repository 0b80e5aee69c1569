import BrowserWait.Wait.Clause
import BrowserWait.Wait.Expression

/-!
# What waits inherit from the browser

A property of steps that sequences keep, and that is kept where a failure means "no", is shared by every clause whose
looks at the browser have it, and by every expression whose leaves have it. Each such property of a wait is proved once
for scripts and looks at elements.
-/

namespace BrowserWait

open Action

/-- Which properties of steps are shared by everything that clauses and expressions make of such steps. -/
structure Action.Closed {σ : Type} (Holds : (α : Type) → Action σ α → Prop) : Prop where
  pure : ∀ {α : Type} (a : α), Holds α (pure a)
  bind : ∀ {α β : Type} {first : Action σ α} {next : α → Action σ β}, Holds α first → (∀ a, Holds β (next a)) →
    Holds β (first >>= next)
  foldMissing : ∀ (kinds : List Status) {step : Action σ Bool}, Holds Bool step →
    Holds Bool (mapOutcome (Clause.foldMissing kinds) step)

namespace Expression

variable {σ α : Type} {Holds : (α : Type) → Action σ α → Prop} {check : α → Action σ Bool}

mutual

theorem evaluate_of_closed (closed : Closed Holds) (expression : Expression α)
    (leaves : ∀ a ∈ expression.leaves, Holds Bool (check a)) : Holds Bool (expression.evaluate check) := by
  cases expression with
  | leaf content => exact leaves content (List.mem_singleton.mpr rfl)
  | all parts => exact evaluateAll_of_closed closed parts leaves
  | any parts => exact evaluateAny_of_closed closed parts leaves

theorem evaluateAll_of_closed (closed : Closed Holds) (parts : List (Expression α))
    (leaves : ∀ a ∈ leavesOfParts parts, Holds Bool (check a)) : Holds Bool (evaluateAll check parts) := by
  cases parts with
  | nil => exact closed.pure true
  | cons part more =>
    have first := evaluate_of_closed closed part fun a member => leaves a (List.mem_append_left _ member)
    have rest := evaluateAll_of_closed closed more fun a member => leaves a (List.mem_append_right _ member)
    refine closed.bind first fun value => ?_
    cases value with
    | true => exact rest
    | false => exact closed.pure false

theorem evaluateAny_of_closed (closed : Closed Holds) (parts : List (Expression α))
    (leaves : ∀ a ∈ leavesOfParts parts, Holds Bool (check a)) : Holds Bool (evaluateAny check parts) := by
  cases parts with
  | nil => exact closed.pure false
  | cons part more =>
    have first := evaluate_of_closed closed part fun a member => leaves a (List.mem_append_left _ member)
    have rest := evaluateAny_of_closed closed more fun a member => leaves a (List.mem_append_right _ member)
    refine closed.bind first fun value => ?_
    cases value with
    | true => exact closed.pure true
    | false => exact rest

end

end Expression

namespace Clause

variable {σ : Type}

/-- Whether a clause has failures of its own, beside those of the browser. -/
def failsOnItsOwn : Clause σ → Bool
  | attributeHolds .. | callable .. => true
  | _ => false

variable [Browser σ] {Holds : (α : Type) → Action σ α → Prop}

/-- A property that scripts and looks at elements have, every clause has that has no failures of its own. -/
theorem evaluate_of_closed (closed : Closed Holds)
    (scripts : ∀ script, Holds Json (Browser.evaluateScript script))
    (finds : ∀ locator, Holds ElementId (Browser.findElement locator))
    (looks : ∀ element, Holds Bool (Browser.isDisplayed element))
    {clause : Clause σ} (plain : clause.failsOnItsOwn = false) : Holds Bool clause.evaluate := by
  have present (locator : Locator) : Holds Bool (present locator) :=
    closed.foldMissing _ (closed.bind (finds locator) fun _ => closed.pure true)
  have visible (locator : Locator) : Holds Bool (visible locator) :=
    closed.foldMissing _ (closed.bind (finds locator) looks)
  have truthy (expression : String) : Holds Bool (truthy expression) :=
    closed.bind (scripts _) fun value => closed.pure value.isTruthy
  cases clause with
  | elementPresent locator => exact present locator
  | elementNotPresent locator => exact closed.bind (present locator) fun _ => closed.pure _
  | elementVisible locator => exact visible locator
  | elementNotVisible locator => exact closed.bind (visible locator) fun _ => closed.pure _
  | attributeHolds finder name reference comparison => cases plain
  | ajaxPending flavor => exact truthy _
  | ajaxComplete flavor => exact truthy _
  | pageLoading => exact truthy _
  | pageReady => exact truthy _
  | script expression => exact truthy expression
  | callable name check => cases plain

end Clause

end BrowserWait
