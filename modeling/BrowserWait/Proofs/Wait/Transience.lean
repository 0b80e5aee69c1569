import BrowserWait.Page.Model
import BrowserWait.Proofs.Poll.Attempt
import BrowserWait.Proofs.Wait.Inheritance
import BrowserWait.Wait.Native

/-!
# Transient failures

Which failures come out of a native wait. Clauses turn some into "no", expressions pass the others on, and polling
retries those that are transient, so no transient failure leaves a wait. As long as the browser fails in no other way
and no clause has failures of its own, no failure leaves it at all.
-/

namespace BrowserWait

/-! ## Steps that fail transiently -/

namespace Action

variable {σ α β : Type} {calm : σ → Prop}

/-- From the states in `calm` a step leads to one of them, and its failures are transient. -/
def Keeps (calm : σ → Prop) (action : Action σ α) : Prop :=
  ∀ state, calm state → calm (action.perform state).2 ∧
    ∀ failure, (action.perform state).1 = .error failure → failure.isTransient = true

theorem keeps_pure (a : α) : Keeps calm (pure a : Action σ α) := by
  intro state holds
  refine ⟨holds, fun failure fails => ?_⟩
  cases fails

theorem Keeps.bind {action : Action σ α} {next : α → Action σ β} (first : Keeps calm action)
    (rest : ∀ a, Keeps calm (next a)) : Keeps calm (action >>= next) := by
  intro state holds
  obtain ⟨kept, transient⟩ := first state holds
  rw [perform_bind]
  rcases performed : action.perform state with ⟨outcome, after⟩
  rw [performed] at kept transient
  cases outcome with
  | ok a => exact rest a after kept
  | error failure =>
    refine ⟨kept, fun later same => ?_⟩
    cases same
    exact transient failure rfl

theorem Keeps.mapOutcome {action : Action σ α} (keeps : Keeps calm action) {f : Except Failure α → Except Failure β}
    (passes : ∀ outcome failure, f outcome = .error failure → outcome = .error failure) :
    Keeps calm (mapOutcome f action) := by
  intro state holds
  obtain ⟨kept, transient⟩ := keeps state holds
  exact ⟨kept, fun failure fails => transient failure (passes _ failure fails)⟩

theorem Keeps.onBrowser {action : Action σ α} (keeps : Keeps calm action) :
    Keeps (fun world => calm world.browser) (World.onBrowser action) := by
  intro world holds
  exact keeps world.browser holds

end Action

/-! ## Browsers and clauses -/

namespace Browser

variable {σ : Type} [Browser σ]

/-- The states that scripts and looks at elements lead to. -/
inductive Reaches (start : σ) : σ → Prop where
  | start : Reaches start start
  | evaluateScript {state : σ} (before : Reaches start state) (script : String) :
    Reaches start ((Browser.evaluateScript script : Action σ Json).perform state).2
  | findElement {state : σ} (before : Reaches start state) (locator : Locator) :
    Reaches start ((Browser.findElement locator : Action σ ElementId).perform state).2
  | isDisplayed {state : σ} (before : Reaches start state) (element : ElementId) :
    Reaches start ((Browser.isDisplayed element : Action σ Bool).perform state).2

/-- A step succeeds in a state, or fails with a server's error of a kind that may be retried. -/
def Retryable {α : Type} (action : Action σ α) (state : σ) : Prop :=
  ∀ failure, (action.perform state).1 = .error failure →
    ∃ status message, failure = .remote status message ∧ status.isRetryable = true

/-- Whatever is asked from a state on, by scripts and looks at elements, only fails in ways that may be retried. -/
structure Forgiving (start : σ) : Prop where
  evaluateScript : ∀ state, Reaches start state →
    ∀ script, Retryable (Browser.evaluateScript script : Action σ Json) state
  findElement : ∀ state, Reaches start state →
    ∀ locator, Retryable (Browser.findElement locator : Action σ ElementId) state
  isDisplayed : ∀ state, Reaches start state →
    ∀ element, Retryable (Browser.isDisplayed element : Action σ Bool) state

end Browser

namespace PageModel

open Browser

theorem lookupFailures_of_reaches {page after : PageModel} (reached : Reaches page after) :
    after.lookupFailures = page.lookupFailures := by
  induction reached with
  | start => rfl
  | @evaluateScript state before script ih =>
    have kept : (PageModel.evaluateScript script state).2.lookupFailures = state.lookupFailures := by
      rw [PageModel.evaluateScript]
      split <;> rfl
    exact kept.trans ih
  | @findElement state before locator ih =>
    have kept : (PageModel.findElement locator state).2.lookupFailures = state.lookupFailures := by
      rw [PageModel.findElement]
      dsimp only
      split
      · rfl
      · split <;> rfl
    exact kept.trans ih
  | isDisplayed before element ih => exact ih

/-- A described page forgives when its failing lookups may be retried, as a missing element may. -/
theorem forgiving_of_lookupFailures {page : PageModel}
    (retryable : ∀ entry ∈ page.lookupFailures, entry.2.isRetryable = true) : Forgiving page := by
  refine ⟨?_, ?_, ?_⟩
  · intro state _ script failure fails
    have succeeds : ∃ value, (PageModel.evaluateScript script state).1 = .ok value := by
      rw [PageModel.evaluateScript]
      dsimp only
      split
      · exact ⟨_, rfl⟩
      · exact ⟨_, rfl⟩
    obtain ⟨value, ok⟩ := succeeds
    cases ok.symm.trans fails
  · intro state reached locator failure fails
    replace fails : (PageModel.findElement locator state).1 = .error failure := fails
    rw [PageModel.findElement] at fails
    dsimp only at fails
    split at fails
    · rename_i status found
      cases fails
      obtain ⟨front, back, listed, _⟩ := List.lookup_eq_some_iff.mp found
      have member : (locator.text, status) ∈ page.lookupFailures := by
        rw [← lookupFailures_of_reaches reached]
        exact listed ▸ List.mem_append_right _ (List.mem_cons_self ..)
      exact ⟨status, _, rfl, retryable _ member⟩
    · split at fails
      · cases fails
      · cases fails
        exact ⟨.noSuchElement, _, rfl, rfl⟩
  · intro _ _ _ failure fails
    cases fails

end PageModel

namespace Clause

open BrowserWait.Action Browser

variable {σ : Type}

theorem foldMissing_error {kinds : List Status} {outcome : Except Failure Bool} {failure : Failure}
    (fails : foldMissing kinds outcome = .error failure) : outcome = .error failure := by
  cases outcome with
  | ok shown => cases fails
  | error cause =>
    rw [foldMissing] at fails
    split at fails
    · cases fails
    · exact fails

theorem closed_keeps (calm : σ → Prop) : Closed fun α => Keeps (α := α) calm :=
  ⟨keeps_pure, Keeps.bind, fun _ _ keeps => keeps.mapOutcome fun _ _ => foldMissing_error⟩

variable [Browser σ] {start : σ}

theorem keeps_findElement (forgiving : Forgiving start) (locator : Locator) :
    Keeps (Reaches start) (Browser.findElement locator : Action σ ElementId) := by
  intro state reached
  refine ⟨reached.findElement locator, fun failure fails => ?_⟩
  exact failure.isTransient_iff.mpr (forgiving.findElement state reached locator failure fails)

theorem keeps_isDisplayed (forgiving : Forgiving start) (element : ElementId) :
    Keeps (Reaches start) (Browser.isDisplayed element : Action σ Bool) := by
  intro state reached
  refine ⟨reached.isDisplayed element, fun failure fails => ?_⟩
  exact failure.isTransient_iff.mpr (forgiving.isDisplayed state reached element failure fails)

theorem keeps_evaluateScript (forgiving : Forgiving start) (script : String) :
    Keeps (Reaches start) (Browser.evaluateScript script : Action σ Json) := by
  intro state reached
  refine ⟨reached.evaluateScript script, fun failure fails => ?_⟩
  exact failure.isTransient_iff.mpr (forgiving.evaluateScript state reached script failure fails)

/-- A clause without failures of its own passes on those of the browser, or turns them into "no". -/
theorem keeps_evaluate (forgiving : Forgiving start) {clause : Clause σ} (plain : clause.failsOnItsOwn = false) :
    Keeps (Reaches start) clause.evaluate :=
  evaluate_of_closed (closed_keeps _) (keeps_evaluateScript forgiving) (keeps_findElement forgiving)
    (keeps_isDisplayed forgiving) plain

end Clause

theorem Expression.keeps_evaluate {σ α : Type} {calm : σ → Prop} {check : α → Action σ Bool} (expression : Expression α)
    (leaves : ∀ a ∈ expression.leaves, Action.Keeps calm (check a)) : Action.Keeps calm (expression.evaluate check) :=
  evaluate_of_closed (Clause.closed_keeps calm) expression leaves

/-! ## Polling -/

namespace Poll

open BrowserWait.Action

variable {σ : Type} {options : PollOptions} {timeout : Nat} {check : Action (World σ) Bool} {world after : World σ}

/-- No transient failure breaks a wait off. -/
theorem isTransient_of_run_aborted {failure : Failure}
    (aborted : run options timeout check world = (.aborted failure, after)) : failure.isTransient = false := by
  let motive (_ : Nat) (_ : Progress) (_ : World σ) : Prop := True
  have start : motive (pauses timeout options.frequency) {} world := trivial
  have survives : Survives options timeout check motive := fun _ _ _ _ _ _ _ => trivial
  obtain ⟨_, _, _, _, ⟨_, interrupted⟩ | ⟨_, lasting⟩⟩ := run_aborted survives start aborted
  · rw [interrupted]
    rfl
  · exact lasting

variable {calm : World σ → Prop}

/-- Nothing breaks a wait off whose check fails transiently, unless the caller may. -/
theorem run_ne_aborted (check_keeps : Keeps calm check) (later_keeps : ∀ ms now, calm now → calm (now.later ms))
    (alone : options.cancellable = false) (holds : calm world) (failure : Failure) :
    run options timeout check world ≠ (.aborted failure, after) := by
  intro aborted
  let motive (_ : Nat) (_ : Progress) (now : World σ) : Prop := calm now
  have start : motive (pauses timeout options.frequency) {} world := holds
  have survives : Survives options timeout check motive := by
    intro _ progress now next after before undecided
    obtain ⟨_, _, _, rfl⟩ := undecided_eq undecided
    exact later_keeps _ _ (check_keeps now before).1
  obtain ⟨_, _, last, lastHolds, ⟨givenUp, _⟩ | ⟨fails, lasting⟩⟩ := run_aborted survives start aborted
  · exact Bool.false_ne_true (alone.symm.trans givenUp.1)
  · obtain ⟨_, transient⟩ := check_keeps last lastHolds
    exact Bool.false_ne_true (lasting.symm.trans (transient failure fails))

end Poll

/-! ## Native waits -/

namespace NativeWait

open Browser

variable {σ : Type} [Browser σ]

/-- A wait without a kept failure ends as its polling does. -/
theorem waitResult_perform {wait : NativeWait σ} (sound : wait.deferred = none) (timeout : Option Nat)
    (world : World σ) :
    ((wait.waitResult timeout).perform world).1 =
      (Poll.run (wait.optionsFor timeout) (Poll.effectiveTimeout (wait.optionsFor timeout) world)
        (World.onBrowser (wait.root.evaluate Clause.evaluate)) world).1.result wait.text := by
  rw [waitResult, sound]
  rfl

/-- No transient failure comes out of a wait, and none at all if nobody can break it off, none of its clauses has
failures of its own, and those of the browser may be retried. -/
theorem waitResult_failures (wait : NativeWait σ) (timeout : Option Nat) (world : World σ)
    (sound : wait.deferred = none) :
    (∀ failure, ((wait.waitResult timeout).perform world).1 = .error failure → failure.isTransient = false) ∧
      (wait.options.cancellable = false → (∀ clause ∈ wait.root.leaves, clause.failsOnItsOwn = false) →
        Forgiving world.browser → ∃ result, ((wait.waitResult timeout).perform world).1 = .ok result) := by
  rw [waitResult_perform sound]
  rcases run : Poll.run (wait.optionsFor timeout) (Poll.effectiveTimeout (wait.optionsFor timeout) world)
    (World.onBrowser (wait.root.evaluate Clause.evaluate)) world with ⟨ending, after⟩
  constructor
  · intro failure fails
    cases ending with
    | satisfied progress => cases fails
    | timedOut progress => cases fails
    | aborted cause =>
      cases fails
      exact Poll.isTransient_of_run_aborted run
  · intro alone plain forgiving
    have leaves : ∀ clause ∈ wait.root.leaves, Action.Keeps (Reaches world.browser) clause.evaluate :=
      fun clause member => Clause.keeps_evaluate forgiving (plain clause member)
    have keeps := (Expression.keeps_evaluate wait.root leaves).onBrowser
    cases ending with
    | satisfied progress => exact ⟨_, rfl⟩
    | timedOut progress => exact ⟨_, rfl⟩
    | aborted cause =>
      have uncancelled : (wait.optionsFor timeout).cancellable = false := alone
      exact absurd run (Poll.run_ne_aborted keeps (fun _ _ reached => reached) uncancelled .start cause)

/-- A wait for a banner outlives lookups that time out, even where it is one part of an OR. -/
theorem waitResult_ok_behind_timeouts :
    let banner : Locator := ⟨.css, "#banner"⟩
    let page : PageModel := { lookupFailures := [("css=#banner", .timeout)] }
    let wait : NativeWait PageModel := { root := .any [.leaf (.elementVisible banner), .leaf .pageLoading] }
    wait.deferred = none ∧ ∃ result, ((wait.waitResult none).perform { browser := page }).1 = .ok result := by
  intro banner page wait
  have sound : wait.deferred = none := rfl
  have plain : ∀ clause ∈ wait.root.leaves, clause.failsOnItsOwn = false := by
    intro clause member
    rcases List.mem_cons.mp member with rfl | member
    · rfl
    · cases List.mem_singleton.mp member
      rfl
  have forgiving : Forgiving page := PageModel.forgiving_of_lookupFailures (by decide)
  exact ⟨sound, (waitResult_failures wait none { browser := page } sound).2 rfl plain forgiving⟩

end NativeWait

end BrowserWait
