import BrowserWait.Proofs.Session.Preservation
import BrowserWait.Proofs.Session.Refusal

/-!
# Uses of a session

What is done with a session, one thing after another, whatever the outcomes: single operations, and blocks of them under
a timeout of their own. A property that the single operations and the setting of timeouts preserve is preserved by all
uses.
-/

namespace BrowserWait

open Action TimedSession

namespace Action

variable {σ α : Type}

/-- A step for its effect. -/
def forEffect (action : Action σ α) : Action σ Unit := do
  let _ ← action

theorem Preserves.forEffect {kept : σ → Prop} {action : Action σ α} (preserves : Preserves kept action) :
    Preserves kept action.forEffect :=
  preserves.bind fun _ => preserves_pure ()

theorem Refuses.preserves {state : σ} {action : Action σ α} (refuses : Refuses state action) :
    Preserves (· = state) action := by
  rintro _ rfl
  obtain ⟨failure, _, performed⟩ := refuses
  rw [performed]

theorem Refuses.forEffect {state : σ} {action : Action σ α} (refuses : Refuses state action) :
    Refuses state action.forEffect :=
  refuses.bind _

/-- The state that operations lead to, one after another, whatever their outcomes. -/
def through {ω : Type} (one : ω → Action σ Unit) (operations : List ω) (state : σ) : σ :=
  operations.foldl (fun state operation => ((one operation).perform state).2) state

theorem kept_through {ω : Type} {kept : σ → Prop} {one : ω → Action σ Unit}
    (each : ∀ operation, Preserves kept (one operation)) (operations : List ω) {state : σ} (holds : kept state) :
    kept (through one operations state) := by
  induction operations generalizing state with
  | nil => exact holds
  | cons operation more ih => exact ih (each operation state holds)

end Action

theorem NativeWait.usesOperations_of_looks {σ : Type} [Browser σ] {wait : NativeWait σ} (looks : wait.looks = true) :
    ∀ clause ∈ wait.root.leaves, clause.UsesOperations := by
  rw [NativeWait.looks, Bool.and_eq_true, List.all_eq_true] at looks
  intro clause member
  have plain := looks.2 clause member
  cases clause with
  | callable name check => cases plain
  | _ => exact trivial

/-- Whether a condition is about the browser, and not nothing or time alone. -/
def Condition.isOfBrowser : Condition → Bool
  | none | duration _ => false
  | _ => true

/-- A use of a session: a single operation, or a block under a timeout of its own that ends as it will. -/
inductive SessionUse (ω : Type) where
  | single (operation : ω)
  | under (timeout : Option Nat) (block : List (SessionUse ω)) (ending : Except Failure Unit)

namespace SessionUse

variable {ω σ : Type} [TimedSession σ] (one : ω → Action σ Unit)

mutual

/-- The step of a use, given those of single operations. -/
def step : SessionUse ω → Action σ Unit
  | single operation => one operation
  | under timeout block ending => withTimeout timeout do
    steps block
    Action.ofExcept ending

/-- The steps of uses one after another, whatever their outcomes. -/
def steps : List (SessionUse ω) → Action σ Unit
  | [] => pure ()
  | first :: more => do
    regardless (step first)
    steps more

end

mutual

/-- The operations of a use. -/
def operations : SessionUse ω → List ω
  | single operation => [operation]
  | under _ block _ => operationsOf block

/-- The operations of several uses. -/
def operationsOf : List (SessionUse ω) → List ω
  | [] => []
  | first :: more => first.operations ++ operationsOf more

end

variable {one} {kept : σ → Prop}

mutual

theorem preserves_step (sets : ∀ ms, Preserves kept (setTimeout ms : Action σ Unit)) (use : SessionUse ω)
    (each : ∀ operation ∈ use.operations, Preserves kept (one operation)) : Preserves kept (use.step one) := by
  cases use with
  | single operation => exact each operation (List.mem_singleton.mpr rfl)
  | under timeout block ending =>
    exact preserves_withTimeout sets timeout ((preserves_steps sets block each).bind fun _ => preserves_ofExcept ending)

theorem preserves_steps (sets : ∀ ms, Preserves kept (setTimeout ms : Action σ Unit)) (uses : List (SessionUse ω))
    (each : ∀ operation ∈ operationsOf uses, Preserves kept (one operation)) : Preserves kept (steps one uses) := by
  cases uses with
  | nil => exact preserves_pure ()
  | cons first more =>
    have now := preserves_step sets first fun operation member => each operation (List.mem_append_left _ member)
    have later := preserves_steps sets more fun operation member => each operation (List.mem_append_right _ member)
    exact (now.mapOutcome _).bind fun _ => later

end

end SessionUse

end BrowserWait
