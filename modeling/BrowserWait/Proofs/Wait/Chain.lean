import BrowserWait.Wait.Expression
import Mathlib.Data.List.Forall2
import Mathlib.Tactic.Common

/-!
# Chains

The flat reading of a wait: its clauses in order, each with the joiner in front of it. A chain is what remains of
clauses and ORs in a row when every OR that does not stand between two clauses, or stands behind another OR, is left
out. The expression a builder grows from a chain is nested ever deeper; `evaluate_ofChain` says that evaluating it is
a single scan of the chain from left to right.
-/

namespace BrowserWait

/-- How a clause is joined to the one before it. -/
inductive Joiner where
  | and
  | or
deriving DecidableEq, Repr

namespace Joiner

/-- Whether the clause behind a joiner is looked at when the value so far is `value`. -/
def asks : Joiner → (value : Bool) → Bool
  | and, value => value
  | or, value => !value

end Joiner

/-- Clauses in order, each with the joiner in front of it. -/
abbrev Chain (α : Type) := List (Joiner × α)

namespace Chain

variable {α β : Type}

/-! ## Chains of steps -/

/-- The chain of the steps behind a clause, where the next clause gets `joiner`. A step without a clause is an OR. -/
def ofStepsBehind : (joiner : Joiner) → List (Option α) → Chain α
  | _, [] => []
  | _, none :: more => ofStepsBehind .or more
  | joiner, some a :: more => (joiner, a) :: ofStepsBehind .and more

/-- The chain of steps: a clause is joined by OR exactly when there is an OR between it and the clause before it. -/
def ofSteps : List (Option α) → Chain α
  | [] => []
  | none :: more => ofSteps more
  | some a :: more => (.and, a) :: ofStepsBehind .and more

/-- The joiners between neighbours. -/
def joiners (chain : Chain α) : List Joiner := (chain.map Prod.fst).tail

theorem ofStepsBehind_or_cons (joiner : Joiner) (more : List (Option α)) :
    ofStepsBehind joiner (none :: none :: more) = ofStepsBehind joiner (none :: more) := rfl

theorem ofStepsBehind_repeated_or (joiner : Joiner) (steps more : List (Option α)) :
    ofStepsBehind joiner (steps ++ none :: none :: more) = ofStepsBehind joiner (steps ++ none :: more) := by
  induction steps generalizing joiner with
  | nil => exact ofStepsBehind_or_cons joiner more
  | cons step steps ih => cases step <;> simp [ofStepsBehind, ih]

theorem ofStepsBehind_trailing_or (joiner : Joiner) (steps : List (Option α)) :
    ofStepsBehind joiner (steps ++ [none]) = ofStepsBehind joiner steps := by
  induction steps generalizing joiner with
  | nil => rfl
  | cons step steps ih => cases step <;> simp [ofStepsBehind, ih]

/-- Several ORs in a row are one. -/
theorem ofSteps_repeated_or (steps more : List (Option α)) :
    ofSteps (steps ++ none :: none :: more) = ofSteps (steps ++ none :: more) := by
  induction steps with
  | nil => rfl
  | cons step steps ih =>
    cases step with
    | none => exact ih
    | some a => simp [ofSteps, ofStepsBehind_repeated_or]

/-- An OR with nothing behind it is none. -/
theorem ofSteps_trailing_or (steps : List (Option α)) : ofSteps (steps ++ [none]) = ofSteps steps := by
  induction steps with
  | nil => rfl
  | cons step steps ih =>
    cases step with
    | none => exact ih
    | some a => simp [ofSteps, ofStepsBehind_trailing_or]

theorem ofStepsBehind_map (f : α → β) (joiner : Joiner) (steps : List (Option α)) :
    ofStepsBehind joiner (steps.map (Option.map f)) =
      (ofStepsBehind joiner steps).map fun link => (link.1, f link.2) := by
  induction steps generalizing joiner with
  | nil => rfl
  | cons step steps ih => cases step <;> simp [ofStepsBehind, ih]

theorem ofSteps_map (f : α → β) (steps : List (Option α)) :
    ofSteps (steps.map (Option.map f)) = (ofSteps steps).map fun link => (link.1, f link.2) := by
  induction steps with
  | nil => rfl
  | cons step steps ih =>
    cases step with
    | none => exact ih
    | some a => simp [ofSteps, ofStepsBehind_map]

/-- Steps that say the same in two ways have one chain. -/
theorem ofSteps_congr {γ δ : Type} {left : γ → Option α} {right : γ → Option β} {f : α → δ} {g : β → δ}
    {steps : List γ} (same : ∀ step ∈ steps, (left step).map f = (right step).map g) :
    (ofSteps (steps.map left)).map (fun link => (link.1, f link.2)) =
      (ofSteps (steps.map right)).map fun link => (link.1, g link.2) := by
  rw [← ofSteps_map, ← ofSteps_map, List.map_map, List.map_map]
  exact congrArg ofSteps (List.map_congr_left same)

theorem ofSteps_ne_nil {steps : List (Option α)} {a : α} (member : some a ∈ steps) : ofSteps steps ≠ [] := by
  induction steps with
  | nil => cases member
  | cons step steps ih =>
    cases step with
    | none =>
      rcases List.mem_cons.mp member with here | later
      · cases here
      · exact ih later
    | some b => exact List.cons_ne_nil _ _

theorem map_snd_ofStepsBehind (joiner : Joiner) (steps : List (Option α)) :
    (ofStepsBehind joiner steps).map Prod.snd = steps.filterMap id := by
  induction steps generalizing joiner with
  | nil => rfl
  | cons step steps ih => cases step <;> simp [ofStepsBehind, ih]

/-- The clauses of a chain are those of its steps, in order. -/
theorem map_snd_ofSteps (steps : List (Option α)) : (ofSteps steps).map Prod.snd = steps.filterMap id := by
  induction steps with
  | nil => rfl
  | cons step steps ih =>
    cases step with
    | none => exact ih
    | some a => simp [ofSteps, map_snd_ofStepsBehind]

/-! ### Related steps -/

section

variable {related : α → β → Prop}

theorem ofStepsBehind_related (joiner : Joiner) {steps : List (Option α)} {others : List (Option β)}
    (same : List.Forall₂ (Option.Rel related) steps others) :
    List.Forall₂ (fun link other => link.1 = other.1 ∧ related link.2 other.2) (ofStepsBehind joiner steps)
      (ofStepsBehind joiner others) := by
  induction same generalizing joiner with
  | nil => exact .nil
  | cons step _ ih =>
    cases step with
    | none => exact ih .or
    | some here => exact .cons ⟨rfl, here⟩ (ih .and)

/-- Steps that are related one by one have related chains, with one list of joiners. -/
theorem ofSteps_related {steps : List (Option α)} {others : List (Option β)}
    (same : List.Forall₂ (Option.Rel related) steps others) :
    List.Forall₂ (fun link other => link.1 = other.1 ∧ related link.2 other.2) (ofSteps steps) (ofSteps others) := by
  induction same with
  | nil => exact .nil
  | cons step rest ih =>
    cases step with
    | none => exact ih
    | some here => exact .cons ⟨rfl, here⟩ (ofStepsBehind_related .and rest)

end

/-! ## Scanning -/

section

variable {m : Type → Type} [Monad m] (check : α → m Bool)

/-- The value of a chain that is looked at from left to right. A clause that is looked at gives the value from there
on, any other clause leaves it as it is. -/
def scan : (value : Bool) → Chain α → m Bool
  | value, [] => pure value
  | value, (joiner, a) :: more => do
    if joiner.asks value then scan (← check a) more else scan value more

end

end Chain

namespace Expression

variable {α : Type}

/-! ## Growing an expression -/

/-- The parts of a conjunction with one clause more: behind an AND it is a further part, behind an OR all parts
together are its left neighbour. -/
def joinParts (parts : List (Expression α)) : Joiner × α → List (Expression α)
  | (.and, a) => parts ++ [leaf a]
  | (.or, a) => [any [all parts, leaf a]]

/-- The conjunction that a chain grows to, clause by clause. -/
def ofChain (chain : Chain α) : Expression α := all (chain.foldl joinParts [])

theorem partsEmpty_append (parts more : List (Expression α)) :
    partsEmpty (parts ++ more) = (partsEmpty parts && partsEmpty more) := by
  induction parts with
  | nil => rfl
  | cons part parts ih => simp [partsEmpty, ih, Bool.and_assoc]

theorem partsEmpty_joinParts (parts : List (Expression α)) (link : Joiner × α) :
    partsEmpty (joinParts parts link) = false := by
  obtain ⟨joiner, a⟩ := link
  cases joiner <;> simp [joinParts, partsEmpty_append, partsEmpty, isEmpty]

/-! ## What a grown expression keeps -/

mutual

/-- The joiners between neighbouring leaves, from left to right. -/
def joiners : Expression α → List Joiner
  | leaf _ => []
  | all parts => joinersOfParts .and parts
  | any parts => joinersOfParts .or parts

/-- The joiners between neighbouring leaves of parts that are joined by `joiner`. -/
def joinersOfParts (joiner : Joiner) : List (Expression α) → List Joiner
  | [] => []
  | part :: more =>
    part.joiners ++ (if part.isEmpty || partsEmpty more then [] else [joiner]) ++ joinersOfParts joiner more

end

mutual

theorem joiners_of_isEmpty (expression : Expression α) (none : expression.isEmpty = true) :
    expression.joiners = [] := by
  cases expression with
  | leaf content => rfl
  | all parts => exact joinersOfParts_of_partsEmpty .and parts none
  | any parts => exact joinersOfParts_of_partsEmpty .or parts none

theorem joinersOfParts_of_partsEmpty (joiner : Joiner) (parts : List (Expression α))
    (none : partsEmpty parts = true) : joinersOfParts joiner parts = [] := by
  cases parts with
  | nil => rfl
  | cons part more =>
    obtain ⟨first, rest⟩ := (Bool.and_eq_true_iff).mp none
    simp [joinersOfParts, joiners_of_isEmpty part first, joinersOfParts_of_partsEmpty joiner more rest, first]

end

theorem leavesOfParts_append (parts more : List (Expression α)) :
    leavesOfParts (parts ++ more) = leavesOfParts parts ++ leavesOfParts more := by
  induction parts with
  | nil => rfl
  | cons part parts ih => simp only [List.cons_append, leavesOfParts, ih, List.append_assoc]

theorem leavesOfParts_joinParts (parts : List (Expression α)) (joiner : Joiner) (a : α) :
    leavesOfParts (joinParts parts (joiner, a)) = leavesOfParts parts ++ [a] := by
  cases joiner with
  | and => simp [joinParts, leavesOfParts_append, leavesOfParts, leaves]
  | or => simp [joinParts, leavesOfParts, leaves]

/-- The leaves are the clauses of the chain, in its order. -/
theorem leaves_ofChain (chain : Chain α) : (ofChain chain).leaves = chain.map Prod.snd := by
  have grown : ∀ parts : List (Expression α),
      leavesOfParts (chain.foldl joinParts parts) = leavesOfParts parts ++ chain.map Prod.snd := by
    induction chain with
    | nil => simp
    | cons link chain ih =>
      intro parts
      rw [List.foldl_cons, ih, leavesOfParts_joinParts]
      simp
  exact grown []

section

variable {m : Type → Type} [Monad m] [LawfulMonad m] (check : α → m Bool)

theorem evaluateAll_append (parts more : List (Expression α)) :
    evaluateAll check (parts ++ more) =
      (do if ← evaluateAll check parts then evaluateAll check more else pure false) := by
  induction parts with
  | nil => simp [evaluateAll]
  | cons part parts ih =>
    simp only [List.cons_append, evaluateAll, ih, bind_assoc]
    congr 1
    funext value
    cases value <;> simp

private theorem bind_ite_pure (action : m Bool) : (do if ← action then pure true else pure false) = action := by
  conv_rhs => rw [← bind_pure action]
  congr 1
  funext value
  cases value <;> rfl

/-- A clause more is looked at when its joiner asks for it, and gives the value then. -/
theorem evaluateAll_joinParts (parts : List (Expression α)) (joiner : Joiner) (a : α) :
    evaluateAll check (joinParts parts (joiner, a)) =
      (do
        let value ← evaluateAll check parts
        if joiner.asks value then check a else pure value) := by
  cases joiner with
  | and =>
    have single : evaluateAll check [leaf a] = check a := by
      simp only [evaluateAll, evaluate, bind_ite_pure]
    rw [joinParts, evaluateAll_append, single]
    congr 1
    funext value
    cases value <;> rfl
  | or =>
    simp only [joinParts, evaluateAll, evaluate, evaluateAny, bind_assoc]
    congr 1
    funext value
    cases value with
    | true => simp [Joiner.asks]
    | false =>
      simp only [Joiner.asks, Bool.false_eq_true, if_false, Bool.not_false, if_true, bind_ite_pure]

theorem evaluateAll_foldl_joinParts (parts : List (Expression α)) (chain : Chain α) :
    evaluateAll check (chain.foldl joinParts parts) =
      (do Chain.scan check (← evaluateAll check parts) chain) := by
  induction chain generalizing parts with
  | nil => simp [Chain.scan]
  | cons link chain ih =>
    obtain ⟨joiner, a⟩ := link
    rw [List.foldl_cons, ih, evaluateAll_joinParts, bind_assoc]
    congr 1
    funext value
    rw [Chain.scan]
    split
    · rfl
    · rw [pure_bind]

/-- Evaluating what a chain grows to is scanning the chain. -/
theorem evaluate_ofChain (chain : Chain α) : (ofChain chain).evaluate check = Chain.scan check true chain := by
  rw [ofChain, evaluate, evaluateAll_foldl_joinParts, evaluateAll, pure_bind]

end

end Expression

end BrowserWait
