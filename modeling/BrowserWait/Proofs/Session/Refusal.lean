import BrowserWait.Proofs.Poll.Attempt
import BrowserWait.Session.Timeout
import BrowserWait.Wait.Native

/-!
# Refused steps

A step is refused on a state that it leaves as it is, with a failure that no server answered with. What begins with a
refused step is refused as well; so is a wait whose looks at the browser are, unless it is decided without a look.
-/

namespace BrowserWait

namespace Action

variable {σ α β : Type} {state : σ}

/-- A step fails on a state and leaves it as it is; its failure is none that a server answered with. -/
def Refuses (state : σ) (action : Action σ α) : Prop :=
  ∃ failure, failure.status? = none ∧ action.perform state = (.error failure, state)

theorem refuses_of_perform {action : Action σ α} {failure : Failure} (own : failure.status? = none)
    (performed : action.perform state = (.error failure, state)) : Refuses state action :=
  ⟨failure, own, performed⟩

theorem Refuses.bind {action : Action σ α} (refuses : Refuses state action) (next : α → Action σ β) :
    Refuses state (action >>= next) := by
  obtain ⟨failure, own, performed⟩ := refuses
  refine refuses_of_perform own ?_
  rw [perform_bind, performed]

/-- A refused step behind one that only reads is refused. -/
theorem Refuses.behind {first : Action σ α} {a : α} {next : α → Action σ β} (refuses : Refuses state (next a))
    (performed : first.perform state = (.ok a, state)) : Refuses state (first >>= next) := by
  obtain ⟨failure, own, refused⟩ := refuses
  refine refuses_of_perform own ?_
  rw [perform_bind, performed]
  exact refused

theorem Refuses.mapOutcome {action : Action σ α} (refuses : Refuses state action)
    {f : Except Failure α → Except Failure β}
    (passes : ∀ failure, failure.status? = none → f (.error failure) = .error failure) :
    Refuses state (mapOutcome f action) := by
  obtain ⟨failure, own, performed⟩ := refuses
  refine refuses_of_perform own ?_
  rw [perform_mapOutcome, performed, passes failure own]

theorem Refuses.onBrowser {world : World σ} {action : Action σ α} (refuses : Refuses world.browser action) :
    Refuses world (World.onBrowser action) := by
  obtain ⟨failure, own, performed⟩ := refuses
  refine refuses_of_perform own ?_
  rw [World.onBrowser, perform_onPart, performed]

end Action

open Action

theorem Failure.hasStatus_eq_false {failure : Failure} (own : failure.status? = none) (status : Status) :
    failure.hasStatus status = false := by
  rw [hasStatus, own]
  rfl

namespace TimedSession

variable {σ α : Type} [TimedSession σ] {state : σ}

/-- Where no timeout was ever set, a step is refused under any timeout if setting one is refused. -/
theorem refuses_scoped (unset : sessionTimeout state = none) {ms : Nat}
    (sets : Refuses state (setTimeout ms : Action σ Unit)) (step : Action σ α) :
    Refuses state (withTimeout (some ms) step) := by
  refine Refuses.behind (a := state) ?_ (perform_get state)
  dsimp only
  rw [unset]
  exact sets.bind _

theorem refuses_withTimeout (unset : sessionTimeout state = none)
    (sets : ∀ ms, Refuses state (setTimeout ms : Action σ Unit)) (timeout : Option Nat) {step : Action σ α}
    (refuses : Refuses state step) : Refuses state (withTimeout timeout step) := by
  cases timeout with
  | none => exact Refuses.behind (a := state) refuses (perform_get state)
  | some ms => exact refuses_scoped unset (sets ms) step

end TimedSession

namespace Poll

variable {σ : Type} [Browser σ] {check : Action (World σ) Bool} {world : World σ}

/-- A wait whose check is refused ends with the first attempt, if the caller did not give up before. -/
theorem refuses_wait (refuses : Refuses world check) (options : PollOptions) (label : String) :
    Refuses world (wait options label check) := by
  obtain ⟨failure, own, performed⟩ := refuses
  -- only failures that a server answered with are tried again
  have lasting : failure.isTransient = false := by
    rw [Failure.isTransient, own]
    rfl
  by_cases givenUp : GivenUp options world
  · refine ⟨.interrupted, rfl, ?_⟩
    rw [wait, perform_ofPerform, run, attempts, attempt_of_givenUp givenUp]
    rfl
  · refine refuses_of_perform own ?_
    have failed : (check.perform world).1 = .error failure := congrArg Prod.fst performed
    have left : (check.perform world).2 = world := congrArg Prod.snd performed
    rw [wait, perform_ofPerform, run, attempts, attempt_of_error givenUp failed lasting, left]
    rfl

end Poll

/-! ## Looks at a browser that refuses them -/

/-- Scripts and lookups are refused. -/
structure Browser.Refusing {σ : Type} [Browser σ] (state : σ) : Prop where
  evaluateScript : ∀ script, Refuses state (Browser.evaluateScript script : Action σ Json)
  findElement : ∀ locator, Refuses state (Browser.findElement locator : Action σ ElementId)

namespace Clause

variable {σ : Type}

/-- Whether a clause is a check of the caller's own. -/
def isCallable : Clause σ → Bool
  | callable .. => true
  | _ => false

variable [Browser σ] {state : σ}

theorem foldMissing_passes (kinds : List Status) {failure : Failure} (own : failure.status? = none) :
    foldMissing kinds (.error failure) = .error failure := by
  have unlike : kinds.any failure.hasStatus = false := by
    simp [Failure.hasStatus_eq_false own]
  rw [foldMissing, unlike]
  rfl

theorem refuses_evaluate (refusing : Browser.Refusing state) {clause : Clause σ} (looks : clause.isCallable = false) :
    Refuses state clause.evaluate := by
  have present (locator : Locator) : Refuses state (present locator) :=
    ((refusing.findElement locator).bind _).mapOutcome fun _ => foldMissing_passes _
  have visible (locator : Locator) : Refuses state (visible locator) :=
    ((refusing.findElement locator).bind _).mapOutcome fun _ => foldMissing_passes _
  have truthy (expression : String) : Refuses state (truthy expression) := (refusing.evaluateScript _).bind _
  cases clause with
  | elementPresent locator => exact present locator
  | elementNotPresent locator => exact (present locator).bind _
  | elementVisible locator => exact visible locator
  | elementNotVisible locator => exact (visible locator).bind _
  | attributeHolds finder name reference comparison =>
    refine Refuses.bind ((refusing.findElement finder.locator).mapOutcome fun failure own => ?_) _
    dsimp only
    rw [Failure.hasStatus_eq_false own]
    rfl
  | ajaxPending flavor => exact truthy _
  | ajaxComplete flavor => exact truthy _
  | pageLoading => exact truthy _
  | pageReady => exact truthy _
  | script expression => exact truthy expression
  | callable name check => cases looks

end Clause

namespace Expression

variable {σ α : Type} {check : α → Action σ Bool} {state : σ}

/-- The value an expression has without a check of any leaf; none if a leaf has to be checked. -/
def bare? (expression : Expression α) : Option Bool := expression.evaluate fun _ => none

/-- A step gives the value that was found without a check, and is refused where none was. -/
def Follows (state : σ) (action : Action σ Bool) : (bare : Option Bool) → Prop
  | some value => action.perform state = (.ok value, state)
  | none => Refuses state action

theorem follows_pure (value : Bool) : Follows state (pure value : Action σ Bool) (pure value) :=
  perform_pure value state

theorem Follows.bind {first : Action σ Bool} {next : Bool → Action σ Bool} {bare : Option Bool}
    {bareNext : Bool → Option Bool} (follows : Follows state first bare)
    (rest : ∀ value, Follows state (next value) (bareNext value)) :
    Follows state (first >>= next) (bare >>= bareNext) := by
  cases bare with
  | none => exact Refuses.bind follows next
  | some value =>
    have goesOn : (first >>= next).perform state = (next value).perform state := by
      rw [perform_bind, follows]
    have behind := rest value
    change Follows state (first >>= next) (bareNext value)
    cases last : bareNext value with
    | none =>
      rw [last] at behind
      exact Refuses.behind behind follows
    | some final =>
      rw [last] at behind
      exact goesOn.trans behind

mutual

theorem evaluate_follows (expression : Expression α) (leaves : ∀ a ∈ expression.leaves, Refuses state (check a)) :
    Follows state (expression.evaluate check) expression.bare? := by
  cases expression with
  | leaf content => exact leaves content (List.mem_singleton.mpr rfl)
  | all parts => exact evaluateAll_follows parts leaves
  | any parts => exact evaluateAny_follows parts leaves

theorem evaluateAll_follows (parts : List (Expression α))
    (leaves : ∀ a ∈ leavesOfParts parts, Refuses state (check a)) :
    Follows state (evaluateAll check parts) (evaluateAll (fun _ => none) parts) := by
  cases parts with
  | nil => exact follows_pure true
  | cons part more =>
    have first := evaluate_follows part fun a member => leaves a (List.mem_append_left _ member)
    have rest := evaluateAll_follows more fun a member => leaves a (List.mem_append_right _ member)
    refine Follows.bind first fun value => ?_
    cases value with
    | true => exact rest
    | false => exact follows_pure false

theorem evaluateAny_follows (parts : List (Expression α))
    (leaves : ∀ a ∈ leavesOfParts parts, Refuses state (check a)) :
    Follows state (evaluateAny check parts) (evaluateAny (fun _ => none) parts) := by
  cases parts with
  | nil => exact follows_pure false
  | cons part more =>
    have first := evaluate_follows part fun a member => leaves a (List.mem_append_left _ member)
    have rest := evaluateAny_follows more fun a member => leaves a (List.mem_append_right _ member)
    refine Follows.bind first fun value => ?_
    cases value with
    | true => exact follows_pure true
    | false => exact rest

end

end Expression

namespace NativeWait

variable {σ : Type}

/-- Whether a wait has to look at the browser, and looks at nothing else. -/
def looks (wait : NativeWait σ) : Bool :=
  wait.deferred.isNone && wait.root.bare?.isNone && wait.root.leaves.all fun clause => !clause.isCallable

variable [Browser σ] {world : World σ}

theorem refuses_wait (refusing : Browser.Refusing world.browser) {wait : NativeWait σ} (looks : wait.looks = true)
    (timeout : Option Nat) : Refuses world (wait.wait timeout) := by
  rw [NativeWait.looks, Bool.and_eq_true, Bool.and_eq_true, List.all_eq_true] at looks
  obtain ⟨⟨sound, undecided⟩, plain⟩ := looks
  rw [Option.isNone_iff_eq_none] at sound undecided
  have leaves (clause : Clause σ) (member : clause ∈ wait.root.leaves) : Refuses world.browser clause.evaluate := by
    refine Clause.refuses_evaluate refusing ?_
    simpa using plain clause member
  have refused := Expression.evaluate_follows wait.root leaves
  rw [undecided] at refused
  refine Refuses.bind ?_ _
  rw [waitResult, sound]
  exact Poll.refuses_wait (Refuses.onBrowser refused) _ _

end NativeWait

end BrowserWait
