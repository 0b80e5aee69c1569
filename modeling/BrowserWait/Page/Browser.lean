import BrowserWait.Element.Locator
import BrowserWait.Json.Basic

/-!
# Browsers

What a wait needs of a browser. A browser is any state with the six operations of `Browser`; an operation may fail,
and what it changed before it failed stays changed.
-/

namespace BrowserWait

/-- A step on a state that may fail; its changes to the state stay when it fails. -/
abbrev Action (σ : Type) := ExceptT Failure (StateM σ)

namespace Action

variable {σ τ α β : Type}

/-- The outcome of a step and the state it leaves. -/
def perform (action : Action σ α) (state : σ) : Except Failure α × σ := (action.run).run state

/-- The step with a given outcome and resulting state. -/
def ofPerform (step : σ → Except Failure α × σ) : Action σ α := ExceptT.mk step

/-- The failure or the value that a computation without effects gave. -/
def ofExcept (result : Except Failure α) : Action σ α := ExceptT.mk (pure result)

/-- A step on a part of the state. -/
def onPart (get : σ → τ) (set : τ → σ → σ) (action : Action τ α) : Action σ α :=
  ofPerform fun state =>
    let (outcome, part) := action.perform (get state)
    (outcome, set part state)

/-- A step with its outcome, whichever it is, turned into another one. -/
def mapOutcome (f : Except Failure α → Except Failure β) (action : Action σ α) : Action σ β :=
  ofPerform fun state =>
    let (outcome, state) := action.perform state
    (f outcome, state)

@[simp] theorem perform_pure (a : α) (state : σ) : (pure a : Action σ α).perform state = (.ok a, state) := rfl

@[simp] theorem perform_throw (failure : Failure) (state : σ) :
    (throw failure : Action σ α).perform state = (.error failure, state) := rfl

@[simp] theorem perform_ofPerform (step : σ → Except Failure α × σ) (state : σ) :
    (ofPerform step).perform state = step state := rfl

@[simp] theorem perform_ofExcept (result : Except Failure α) (state : σ) :
    (ofExcept result : Action σ α).perform state = (result, state) := rfl

@[simp] theorem perform_get (state : σ) : (get : Action σ σ).perform state = (.ok state, state) := rfl

@[simp] theorem perform_set (new state : σ) : (set new : Action σ PUnit).perform state = (.ok ⟨⟩, new) := rfl

@[simp] theorem perform_modify (f : σ → σ) (state : σ) :
    (modify f : Action σ PUnit).perform state = (.ok ⟨⟩, f state) := rfl

@[simp] theorem perform_onPart (get : σ → τ) (set : τ → σ → σ) (action : Action τ α) (state : σ) :
    (onPart get set action).perform state =
      ((action.perform (get state)).1, set (action.perform (get state)).2 state) := rfl

@[simp] theorem perform_mapOutcome (f : Except Failure α → Except Failure β) (action : Action σ α) (state : σ) :
    (mapOutcome f action).perform state = (f (action.perform state).1, (action.perform state).2) := rfl

/-- A sequence goes on where its first step left off, unless that step failed. -/
theorem perform_bind (action : Action σ α) (next : α → Action σ β) (state : σ) :
    (action >>= next).perform state =
      match action.perform state with
      | (.ok a, state) => (next a).perform state
      | (.error failure, state) => (.error failure, state) := by
  simp only [perform, ExceptT.run_bind, StateT.run_bind]
  rcases h : (StateT.run (ExceptT.run action) state) with ⟨outcome, after⟩
  cases outcome <;> rfl

end Action

/-- A server's reference to an element of a page. -/
structure ElementId where
  text : String
deriving DecidableEq, Repr

/-- A state that a wait can look at. -/
class Browser (σ : Type) where
  /-- The value a script returns. -/
  evaluateScript : (script : String) → Action σ Json
  /-- The element a locator finds. -/
  findElement : Locator → Action σ ElementId
  /-- Whether an element is displayed. -/
  isDisplayed : ElementId → Action σ Bool
  /-- An attribute of an element, if it has it. -/
  attribute? : ElementId → (name : String) → Action σ (Option String)
  /-- The markup of the page. -/
  pageSource : Action σ String
  /-- The time a wait takes unless told otherwise, in milliseconds. -/
  currentTimeout : σ → Nat

end BrowserWait
