import BrowserWait.Proofs.Poll.Attempt
import BrowserWait.Proofs.Wait.Inheritance
import BrowserWait.Session.Timeout
import BrowserWait.Wait.Native
import Mathlib.Tactic.Common

/-!
# Preserved properties

A property of a state that single steps preserve is preserved by everything that is made of them: sequences, steps
under a timeout of their own, and whole waits, whose clauses may do what they like as long as they do it by the
operations of the browser.
-/

namespace BrowserWait

namespace Action

variable {σ α β : Type}

/-- From a state with a property a step leads to a state with it, whether it fails or not. -/
def Preserves (kept : σ → Prop) (action : Action σ α) : Prop :=
  ∀ state, kept state → kept (action.perform state).2

variable {kept : σ → Prop}

theorem preserves_pure (a : α) : Preserves kept (pure a : Action σ α) := fun _ holds => holds

theorem preserves_throw (failure : Failure) : Preserves kept (throw failure : Action σ α) := fun _ holds => holds

theorem preserves_ofExcept (result : Except Failure α) : Preserves kept (ofExcept result : Action σ α) :=
  fun _ holds => holds

theorem preserves_get : Preserves kept (get : Action σ σ) := fun _ holds => holds

theorem preserves_modify {change : σ → σ} (keeps : ∀ state, kept state → kept (change state)) :
    Preserves kept (modify change : Action σ PUnit) :=
  keeps

/-- What holds behind the first of two steps and is preserved by the second holds behind both. -/
theorem kept_bind {action : Action σ α} {next : α → Action σ β} {state : σ} (first : kept (action.perform state).2)
    (rest : ∀ a, Preserves kept (next a)) : kept ((action >>= next).perform state).2 := by
  rw [perform_bind]
  rcases performed : action.perform state with ⟨outcome, after⟩
  rw [performed] at first
  cases outcome with
  | ok a => exact rest a after first
  | error failure => exact first

theorem Preserves.bind {action : Action σ α} {next : α → Action σ β} (first : Preserves kept action)
    (rest : ∀ a, Preserves kept (next a)) : Preserves kept (action >>= next) :=
  fun state holds => kept_bind (first state holds) rest

theorem Preserves.mapOutcome {action : Action σ α} (preserves : Preserves kept action)
    (f : Except Failure α → Except Failure β) : Preserves kept (mapOutcome f action) :=
  preserves

theorem Preserves.onBrowser {action : Action σ α} (preserves : Preserves kept action) :
    Preserves (fun world => kept world.browser) (World.onBrowser action) := by
  intro world holds
  exact preserves world.browser holds

theorem preserves_pause (ms : Nat) : Preserves (fun world : World σ => kept world.browser) (World.pause ms) :=
  fun _ holds => holds

theorem closed_preserves (kept : σ → Prop) : Closed fun α => Preserves (α := α) kept :=
  ⟨preserves_pure, Preserves.bind, fun _ _ preserves => preserves.mapOutcome _⟩

/-- A step whose outcome nobody looks at. -/
def regardless (action : Action σ α) : Action σ Unit := mapOutcome (fun _ => .ok ()) action

end Action

open Action

/-! ## Timeouts -/

namespace TimedSession

variable {σ α : Type} [TimedSession σ] {kept : σ → Prop}

theorem preserves_restore (sets : ∀ ms, Preserves kept (setTimeout ms : Action σ Unit)) (former : Option Nat) :
    Preserves kept (restore former : Action σ Unit) := by
  cases former with
  | none => exact preserves_pure ()
  | some ms => exact sets ms

theorem preserves_thenRestore (sets : ∀ ms, Preserves kept (setTimeout ms : Action σ Unit)) (former : Option Nat)
    {step : Action σ α} (preserves : Preserves kept step) : Preserves kept (thenRestore former step) := by
  intro session holds
  have afterStep := preserves session holds
  rw [thenRestore, perform_ofPerform]
  rcases stepped : step.perform session with ⟨outcome, between⟩
  rw [stepped] at afterStep
  have afterRestore := preserves_restore sets former between afterStep
  rcases restored : (restore former : Action σ Unit).perform between with ⟨put, after⟩
  rw [restored] at afterRestore
  cases outcome with
  | ok value => cases put <;> simpa [restored] using afterRestore
  | error failure =>
    cases fatal : failure.isFatal with
    | true => simpa [fatal] using afterStep
    | false => cases put <;> simpa [fatal, restored] using afterRestore

theorem preserves_withTimeout (sets : ∀ ms, Preserves kept (setTimeout ms : Action σ Unit)) (timeout : Option Nat)
    {step : Action σ α} (preserves : Preserves kept step) : Preserves kept (withTimeout timeout step) := by
  refine preserves_get.bind fun session => ?_
  dsimp only
  split
  · exact preserves
  · exact (sets _).bind fun _ => preserves_thenRestore sets _ preserves

end TimedSession

/-! ## Polling -/

namespace Poll

variable {σ : Type} {options : PollOptions} {timeout : Nat} {check : Action (World σ) Bool} {kept : World σ → Prop}

theorem preserves_attempt (options : PollOptions) (timeout : Nat) (preserves : Preserves kept check)
    (progress : Progress) {world : World σ} (holds : kept world) :
    kept (attempt options timeout check progress world).2 := by
  have checked := preserves world holds
  rcases attempt_cases options timeout check progress world with
    ⟨_, ended⟩ | ⟨_, ⟨_, ended⟩ | ⟨_, _, _, ended⟩ | ⟨_, ended⟩⟩
  · rw [ended]
    exact holds
  · rw [ended]
    exact checked
  · rw [ended]
    exact checked
  · rw [ended]
    exact checked

theorem survives_of_preserves (preserves : Preserves kept check)
    (later : ∀ ms world, kept world → kept (world.later ms)) :
    Survives options timeout check fun _ _ world => kept world := by
  intro _ progress world next after holds undecided
  have attempted := preserves_attempt options timeout preserves progress holds
  rw [undecided] at attempted
  exact later _ _ attempted

theorem preserves_run (preserves : Preserves kept check) (later : ∀ ms world, kept world → kept (world.later ms))
    {world : World σ} (holds : kept world) : kept (run options timeout check world).2 := by
  let motive (_ : Nat) (_ : Progress) (now : World σ) : Prop := kept now
  have survives : Survives options timeout check motive := survives_of_preserves preserves later
  have start : motive (pauses timeout options.frequency) {} world := holds
  obtain ⟨_, last, before, _, _, lastHolds, decided, ran⟩ := run_decided survives start
  have attempted := preserves_attempt options timeout preserves last lastHolds
  rw [decided] at attempted
  rw [ran]
  exact attempted

/-- A wait is satisfied by a check that holds, in a world with everything that checks and pauses preserve. -/
theorem run_satisfied (preserves : Preserves kept check) (later : ∀ ms world, kept world → kept (world.later ms))
    {world after : World σ} (holds : kept world) {progress : Progress}
    (satisfied : run options timeout check world = (.satisfied progress, after)) :
    ∃ before, kept before ∧ check.perform before = (.ok true, after) := by
  obtain ⟨_, _, before, keptThere, here⟩ := run_held (survives_of_preserves preserves later) holds satisfied
  exact ⟨before, keptThere, here⟩

theorem preserves_wait [Browser σ] (preserves : Preserves kept check)
    (later : ∀ ms world, kept world → kept (world.later ms)) (options : PollOptions) (label : String) :
    Preserves kept (wait options label check) := by
  intro world holds
  exact preserves_run preserves later holds

end Poll

/-! ## Browsers -/

namespace Browser

variable {σ : Type} [Browser σ]

/-- The states that the operations of a browser lead to. -/
inductive Reachable (start : σ) : σ → Prop where
  | start : Reachable start start
  | evaluateScript {state : σ} (before : Reachable start state) (script : String) :
    Reachable start ((Browser.evaluateScript script : Action σ Json).perform state).2
  | findElement {state : σ} (before : Reachable start state) (locator : Locator) :
    Reachable start ((Browser.findElement locator : Action σ ElementId).perform state).2
  | isDisplayed {state : σ} (before : Reachable start state) (element : ElementId) :
    Reachable start ((Browser.isDisplayed element : Action σ Bool).perform state).2
  | attribute? {state : σ} (before : Reachable start state) (element : ElementId) (name : String) :
    Reachable start ((Browser.attribute? element name : Action σ (Option String)).perform state).2
  | pageSource {state : σ} (before : Reachable start state) :
    Reachable start ((Browser.pageSource : Action σ String).perform state).2

/-- The operations of a browser preserve a property. -/
structure Preserving (kept : σ → Prop) : Prop where
  evaluateScript : ∀ script, Preserves kept (Browser.evaluateScript script : Action σ Json)
  findElement : ∀ locator, Preserves kept (Browser.findElement locator : Action σ ElementId)
  isDisplayed : ∀ element, Preserves kept (Browser.isDisplayed element : Action σ Bool)
  attribute? : ∀ element name, Preserves kept (Browser.attribute? element name : Action σ (Option String))
  pageSource : Preserves kept (Browser.pageSource : Action σ String)

theorem Preserving.of_reachable {kept : σ → Prop} (preserving : Preserving kept) {start state : σ}
    (reachable : Reachable start state) (holds : kept start) : kept state := by
  induction reachable with
  | start => exact holds
  | evaluateScript _ script ih => exact preserving.evaluateScript script _ ih
  | findElement _ locator ih => exact preserving.findElement locator _ ih
  | isDisplayed _ element ih => exact preserving.isDisplayed element _ ih
  | attribute? _ element name ih => exact preserving.attribute? element name _ ih
  | pageSource _ ih => exact preserving.pageSource _ ih

end Browser

namespace Clause

variable {σ : Type} [Browser σ]

/-- A clause does nothing to the browser but use its operations; only a check of the caller's own could. -/
def UsesOperations : Clause σ → Prop
  | callable _ check => ∀ state, Browser.Reachable state (check.perform state).2
  | _ => True

theorem preserves_evaluate {kept : σ → Prop} (preserving : Browser.Preserving kept) {clause : Clause σ}
    (uses : clause.UsesOperations) : Preserves kept clause.evaluate := by
  by_cases plain : clause.failsOnItsOwn = false
  · exact evaluate_of_closed (closed_preserves kept) preserving.evaluateScript preserving.findElement
      preserving.isDisplayed plain
  · cases clause with
    | attributeHolds finder name reference comparison =>
      refine ((preserving.findElement finder.locator).mapOutcome _).bind fun element => ?_
      exact (preserving.attribute? element name).bind fun value => preserves_pure _
    | callable name check => exact fun state holds => preserving.of_reachable (uses state) holds
    | _ => exact absurd rfl plain

end Clause

namespace NativeWait

variable {σ : Type} [Browser σ]

/-- A wait preserves what the operations of the browser preserve. -/
theorem preserves_wait {kept : σ → Prop} (preserving : Browser.Preserving kept) {wait : NativeWait σ}
    (uses : ∀ clause ∈ wait.root.leaves, clause.UsesOperations) (timeout : Option Nat) :
    Preserves (fun world => kept world.browser) (wait.wait timeout) := by
  refine Preserves.bind ?_ fun result => preserves_pure result.success
  rw [waitResult]
  split
  · exact preserves_throw _
  · have leaves (clause : Clause σ) (member : clause ∈ wait.root.leaves) : Preserves kept clause.evaluate :=
      Clause.preserves_evaluate preserving (uses clause member)
    have checked := Expression.evaluate_of_closed (closed_preserves kept) wait.root leaves
    exact Poll.preserves_wait checked.onBrowser (fun _ _ holds => holds) _ _

end NativeWait

end BrowserWait
