import BrowserWait.Proofs.Wait.Agreement

/-!
# Short circuits

Which leaves an evaluation looks at, and what it makes of their outcomes. A `Walk` is the leaves looked at with their
outcomes, and a result that these alone decide: any evaluation whose looks come out that way goes that way, on any
state. There is a walk for every evaluation, by one induction over the expression. Numbering the leaves turns this into
`evaluate_short_circuits`, which speaks of outcomes assigned to leaves.
-/

namespace BrowserWait

open Action

/-! ## Looks in a row -/

/-- Looks, one after another, with these outcomes lead from one state to another. -/
inductive Looks {ι σ : Type} (look : ι → Action σ Bool) : List (ι × Except Failure Bool) → σ → σ → Prop where
  | none (state : σ) : Looks look [] state state
  | more {i : ι} {outcome : Except Failure Bool} {later : List (ι × Except Failure Bool)} {state between after : σ}
    (first : (look i).perform state = (outcome, between)) (rest : Looks look later between after) :
    Looks look ((i, outcome) :: later) state after

namespace Looks

variable {ι σ : Type} {look : ι → Action σ Bool} {steps later : List (ι × Except Failure Bool)} {state after : σ}

theorem append {between : σ} (first : Looks look steps state between) (rest : Looks look later between after) :
    Looks look (steps ++ later) state after := by
  induction first with
  | none => exact rest
  | more here _ ih => exact .more here (ih rest)

theorem split (looks : Looks look (steps ++ later) state after) :
    ∃ between, Looks look steps state between ∧ Looks look later between after := by
  induction steps generalizing state with
  | nil => exact ⟨state, .none state, looks⟩
  | cons step steps ih =>
    cases looks with
    | more here rest =>
      obtain ⟨between, front, back⟩ := ih rest
      exact ⟨between, .more here front, back⟩

end Looks

namespace Expression

/-! ## The boolean function of an expression -/

section

variable {α : Type}

mutual

/-- Whether an expression holds when its leaves have these values. -/
def holds (truth : α → Bool) : Expression α → Bool
  | leaf content => truth content
  | all parts => allHold truth parts
  | any parts => anyHolds truth parts

/-- Whether all parts hold. -/
def allHold (truth : α → Bool) : List (Expression α) → Bool
  | [] => true
  | part :: more => part.holds truth && allHold truth more

/-- Whether some part holds. -/
def anyHolds (truth : α → Bool) : List (Expression α) → Bool
  | [] => false
  | part :: more => part.holds truth || anyHolds truth more

end

/-- The parts of a conjunction or of a disjunction, whichever goes on behind a part with the value `goesOn`. -/
def partsHold (goesOn : Bool) (truth : α → Bool) (parts : List (Expression α)) : Bool :=
  match goesOn with
  | true => allHold truth parts
  | false => anyHolds truth parts

/-- The evaluation of such parts. -/
def evaluateParts {m : Type → Type} [Monad m] (goesOn : Bool) (check : α → m Bool) (parts : List (Expression α)) :
    m Bool :=
  match goesOn with
  | true => evaluateAll check parts
  | false => evaluateAny check parts

theorem partsHold_cons (goesOn : Bool) (truth : α → Bool) (part : Expression α) (more : List (Expression α)) :
    partsHold goesOn truth (part :: more) =
      if part.holds truth = goesOn then partsHold goesOn truth more else !goesOn := by
  cases goesOn <;> cases value : part.holds truth <;> simp [partsHold, allHold, anyHolds, value]

theorem perform_evaluateParts_nil {σ : Type} (goesOn : Bool) (check : α → Action σ Bool) (state : σ) :
    (evaluateParts goesOn check []).perform state = (.ok goesOn, state) := by
  cases goesOn <;> rfl

theorem perform_evaluateParts_cons {σ : Type} (goesOn : Bool) (check : α → Action σ Bool) (part : Expression α)
    (more : List (Expression α)) (state : σ) :
    (evaluateParts goesOn check (part :: more)).perform state =
      match (part.evaluate check).perform state with
      | (.ok value, between) =>
        if value = goesOn then (evaluateParts goesOn check more).perform between else (.ok (!goesOn), between)
      | (.error failure, between) => (.error failure, between) := by
  cases goesOn with
  | true =>
    rw [evaluateParts, evaluateAll, perform_bind]
    rcases (part.evaluate check).perform state with ⟨failure | _ | _, between⟩ <;> rfl
  | false =>
    rw [evaluateParts, evaluateAny, perform_bind]
    rcases (part.evaluate check).perform state with ⟨failure | _ | _, between⟩ <;> rfl

end

/-! ## Walks -/

/-- A way to go through leaves: those looked at with their outcomes, and the result that they decide. -/
structure Walk {ι : Type} (leaves : List ι) (value : (ι → Bool) → Bool)
    (evaluation : {σ : Type} → (ι → Action σ Bool) → Action σ Bool) (steps : List (ι × Except Failure Bool))
    (result : Except Failure Bool) : Prop where
  /-- From left to right, and none twice. -/
  inOrder : (steps.map Prod.fst).Sublist leaves
  /-- The result is the boolean function's value, whatever the values of the other leaves. -/
  valued : ∀ truth, (∀ step ∈ steps, step.2 = .ok (truth step.1)) → result = .ok (value truth)
  /-- A failure is the result, and ends the walk. -/
  failed : ∀ before i failure behind, steps = before ++ (i, .error failure) :: behind →
    behind = [] ∧ result = .error failure
  /-- Whatever looks come out that way. -/
  goes : ∀ {σ : Type} {look : ι → Action σ Bool} {state after : σ}, Looks look steps state after →
    (evaluation look).perform state = (result, after)

/-- A walk through an expression. -/
def Goes {ι : Type} (expression : Expression ι) (steps : List (ι × Except Failure Bool))
    (result : Except Failure Bool) : Prop :=
  Walk expression.leaves (fun truth => expression.holds truth) (fun look => expression.evaluate look) steps result

/-- A walk through the parts of a conjunction or a disjunction. -/
def PartsGo {ι : Type} (goesOn : Bool) (parts : List (Expression ι)) (steps : List (ι × Except Failure Bool))
    (result : Except Failure Bool) : Prop :=
  Walk (leavesOfParts parts) (fun truth => partsHold goesOn truth parts) (fun look => evaluateParts goesOn look parts)
    steps result

section

variable {ι : Type} {goesOn : Bool} {part : Expression ι} {more : List (Expression ι)}
  {steps later : List (ι × Except Failure Bool)} {result : Except Failure Bool}

theorem goes_leaf (i : ι) (outcome : Except Failure Bool) : Goes (leaf i) [(i, outcome)] outcome where
  inOrder := List.Sublist.refl _
  valued truth agrees := agrees (i, outcome) (List.mem_singleton.mpr rfl)
  failed before j failure behind split := by
    cases before with
    | nil =>
      cases split
      exact ⟨rfl, rfl⟩
    | cons step before => simp at split
  goes looks := by
    cases looks with
    | more first rest =>
      cases rest
      exact first

theorem partsGo_nil (goesOn : Bool) : PartsGo goesOn ([] : List (Expression ι)) [] (.ok goesOn) where
  inOrder := List.Sublist.refl _
  valued truth _ := by cases goesOn <;> rfl
  failed before i failure behind split := by simp at split
  goes looks := by
    cases looks
    exact perform_evaluateParts_nil goesOn _ _

/-- A part with the other value decides. -/
theorem Goes.stops (first : Goes part steps (.ok !goesOn)) : PartsGo goesOn (part :: more) steps (.ok !goesOn) where
  inOrder := first.inOrder.trans (List.sublist_append_left _ _)
  valued truth agrees := by
    have value : part.holds truth = !goesOn := (Except.ok.inj (first.valued truth agrees)).symm
    simp [partsHold_cons, value]
  failed before i failure behind split := by cases (first.failed before i failure behind split).2
  goes looks := by
    rw [perform_evaluateParts_cons, first.goes looks]
    exact if_neg (by simp)

/-- A part that fails is the last. -/
theorem Goes.fails {failure : Failure} (first : Goes part steps (.error failure)) :
    PartsGo goesOn (part :: more) steps (.error failure) where
  inOrder := first.inOrder.trans (List.sublist_append_left _ _)
  valued truth agrees := by cases first.valued truth agrees
  failed := first.failed
  goes looks := by rw [perform_evaluateParts_cons, first.goes looks]

/-- Behind any other part the rest decides. -/
theorem Goes.continues (first : Goes part steps (.ok goesOn)) (rest : PartsGo goesOn more later result) :
    PartsGo goesOn (part :: more) (steps ++ later) result where
  inOrder := by
    rw [List.map_append]
    exact first.inOrder.append rest.inOrder
  valued truth agrees := by
    rw [List.forall_mem_append] at agrees
    have value : part.holds truth = goesOn := (Except.ok.inj (first.valued truth agrees.1)).symm
    rw [rest.valued truth agrees.2, partsHold_cons, if_pos value]
  failed before i failure behind split := by
    -- the failure is none of the first part, whose result is a value
    rcases List.append_eq_append_iff.mp split with ⟨between, front, back⟩ | ⟨between, front, back⟩
    · exact rest.failed between i failure behind back
    · cases between with
      | nil => exact rest.failed [] i failure behind back.symm
      | cons step between =>
        cases back
        cases (first.failed before i failure between front).2
  goes looks := by
    obtain ⟨between, front, back⟩ := looks.split
    rw [perform_evaluateParts_cons, first.goes front]
    dsimp only
    rw [if_pos rfl, rest.goes back]

end

mutual

/-- Every evaluation is a walk. -/
theorem exists_goes {ι σ : Type} (expression : Expression ι) (look : ι → Action σ Bool) (state : σ) :
    ∃ steps result after, expression.Goes steps result ∧ Looks look steps state after := by
  cases expression with
  | leaf i => exact ⟨_, _, _, goes_leaf i ((look i).perform state).1, .more rfl (.none _)⟩
  | all parts => exact exists_partsGo true parts look state
  | any parts => exact exists_partsGo false parts look state

theorem exists_partsGo {ι σ : Type} (goesOn : Bool) (parts : List (Expression ι)) (look : ι → Action σ Bool)
    (state : σ) : ∃ steps result after, PartsGo goesOn parts steps result ∧ Looks look steps state after := by
  cases parts with
  | nil => exact ⟨_, _, _, partsGo_nil goesOn, .none state⟩
  | cons part more =>
    obtain ⟨steps, result, between, first, front⟩ := exists_goes part look state
    rcases result with failure | value
    · exact ⟨steps, _, between, first.fails, front⟩
    · by_cases decides : value = !goesOn
      · subst decides
        exact ⟨steps, _, between, first.stops, front⟩
      · obtain rfl : value = goesOn := by cases value <;> cases goesOn <;> simp_all
        obtain ⟨later, result, after, rest, back⟩ := exists_partsGo value more look between
        exact ⟨steps ++ later, result, after, first.continues rest, front.append back⟩

end

/-! ## Numbered leaves -/

section

variable {α : Type}

mutual

theorem leaves_numberFrom (first : Nat) (expression : Expression α) :
    (expression.numberFrom first).leaves = List.range' first expression.leafCount := by
  cases expression with
  | leaf content => rfl
  | all parts => exact leavesOfParts_numberPartsFrom first parts
  | any parts => exact leavesOfParts_numberPartsFrom first parts

theorem leavesOfParts_numberPartsFrom (first : Nat) (parts : List (Expression α)) :
    leavesOfParts (numberPartsFrom first parts) = List.range' first (leafCountOfParts parts) := by
  cases parts with
  | nil => rfl
  | cons part more =>
    rw [numberPartsFrom, leavesOfParts, leaves_numberFrom first part,
      leavesOfParts_numberPartsFrom (first + part.leafCount) more, List.range'_append_1, leafCountOfParts]

end

section

variable {m : Type → Type} [Monad m] {numbered : Nat → m Bool} {check : α → m Bool}

mutual

/-- The numbers of leaves stand for the leaves. -/
theorem evaluate_numberFrom (first : Nat) (expression : Expression α)
    (same : ∀ i a, expression.leaves[i]? = some a → numbered (first + i) = check a) :
    (expression.numberFrom first).evaluate numbered = expression.evaluate check := by
  cases expression with
  | leaf content => exact same 0 content rfl
  | all parts => exact (evaluateAll_and_any_numberPartsFrom first parts same).1
  | any parts => exact (evaluateAll_and_any_numberPartsFrom first parts same).2

theorem evaluateAll_and_any_numberPartsFrom (first : Nat) (parts : List (Expression α))
    (same : ∀ i a, (leavesOfParts parts)[i]? = some a → numbered (first + i) = check a) :
    evaluateAll numbered (numberPartsFrom first parts) = evaluateAll check parts ∧
      evaluateAny numbered (numberPartsFrom first parts) = evaluateAny check parts := by
  cases parts with
  | nil => exact ⟨rfl, rfl⟩
  | cons part more =>
    have here := evaluate_numberFrom first part fun i a found =>
      same i a (List.getElem?_append_left (List.getElem?_eq_some_iff.mp found).1 ▸ found)
    have behind := evaluateAll_and_any_numberPartsFrom (first + part.leafCount) more fun i a found => by
      rw [Nat.add_assoc]
      refine same (part.leafCount + i) a ?_
      rw [leavesOfParts, ← length_leaves, List.getElem?_append_right (Nat.le_add_right _ _), Nat.add_sub_cancel_left]
      exact found
    rw [numberPartsFrom, evaluateAll, evaluateAll, evaluateAny, evaluateAny, here, behind.1, behind.2]
    exact ⟨rfl, rfl⟩

end

end

/-- The look at the leaf with a number. -/
def lookAt {m : Type → Type} [Monad m] (expression : Expression α) (check : α → m Bool) (number : Nat) : m Bool :=
  match expression.leaves[number]? with
  | some content => check content
  | none => pure false

theorem evaluate_eq_numbered {m : Type → Type} [Monad m] (expression : Expression α) (check : α → m Bool) :
    expression.evaluate check = (expression.numberFrom 0).evaluate (expression.lookAt check) := by
  refine (evaluate_numberFrom 0 expression ?_).symm
  intro i a found
  rw [Nat.zero_add, lookAt, found]

mutual

/-- Evaluating with values that are certain gives the boolean function. -/
theorem evaluate_certain (truth : α → Bool) (expression : Expression α) :
    expression.evaluate (fun a => (pure (truth a) : Id Bool)) = pure (expression.holds truth) := by
  cases expression with
  | leaf content => rfl
  | all parts => exact (evaluateAll_and_any_certain truth parts).1
  | any parts => exact (evaluateAll_and_any_certain truth parts).2

theorem evaluateAll_and_any_certain (truth : α → Bool) (parts : List (Expression α)) :
    evaluateAll (fun a => (pure (truth a) : Id Bool)) parts = pure (allHold truth parts) ∧
      evaluateAny (fun a => (pure (truth a) : Id Bool)) parts = pure (anyHolds truth parts) := by
  cases parts with
  | nil => exact ⟨rfl, rfl⟩
  | cons part more =>
    obtain ⟨all, any⟩ := evaluateAll_and_any_certain truth more
    rw [evaluateAll, evaluateAny, evaluate_certain truth part, all, any, pure_bind, pure_bind, allHold, anyHolds]
    cases part.holds truth <;> exact ⟨rfl, rfl⟩

end

/-- The value of an expression in the comparison of the two builders is that of its boolean function. -/
theorem truthValue_eq_holds (truth : Nat → Bool) (expression : Expression α) :
    expression.truthValue truth = (expression.numberFrom 0).holds truth :=
  congrArg Id.run (evaluate_certain truth (expression.numberFrom 0))

/-! ## Outcomes assigned to leaves -/

/-- A look that notes the leaf and has the outcome assigned to it. -/
def noted (outcomes : Nat → Except Failure Bool) (leaf : Nat) : Action (List Nat) Bool :=
  .ofPerform fun visited => (outcomes leaf, visited ++ [leaf])

/-- The result of evaluating an expression whose leaves, in order, have these outcomes, and the numbers of the leaves
looked at, in the order of the looks. -/
def visit (expression : Expression α) (outcomes : Nat → Except Failure Bool) : Except Failure Bool × List Nat :=
  ((expression.numberFrom 0).evaluate (noted outcomes)).perform []

theorem looks_noted_iff {outcomes : Nat → Except Failure Bool} {steps : List (Nat × Except Failure Bool)}
    {visited after : List Nat} :
    Looks (noted outcomes) steps visited after ↔
      (∀ step ∈ steps, step.2 = outcomes step.1) ∧ after = visited ++ steps.map Prod.fst := by
  induction steps generalizing visited with
  | nil =>
    constructor
    · rintro ⟨⟩
      exact ⟨List.forall_mem_nil _, (List.append_nil _).symm⟩
    · rintro ⟨_, rfl⟩
      rw [List.map_nil, List.append_nil]
      exact .none visited
  | cons step steps ih =>
    obtain ⟨i, outcome⟩ := step
    rw [List.forall_mem_cons, List.map_cons, List.append_cons]
    constructor
    · rintro (_ | ⟨first, rest⟩)
      cases first
      obtain ⟨agree, reached⟩ := ih.mp rest
      exact ⟨⟨rfl, agree⟩, reached⟩
    · rintro ⟨⟨here, agree⟩, reached⟩
      obtain rfl : outcome = outcomes i := here
      exact .more rfl (ih.mpr ⟨agree, reached⟩)

/-- The outcomes of different leaves are an assignment. -/
theorem exists_outcomes {steps : List (Nat × Except Failure Bool)} (different : (steps.map Prod.fst).Nodup) :
    ∃ outcomes : Nat → Except Failure Bool, ∀ step ∈ steps, step.2 = outcomes step.1 := by
  induction steps with
  | nil => exact ⟨fun _ => .ok false, List.forall_mem_nil _⟩
  | cons step steps ih =>
    rw [List.map_cons, List.nodup_cons] at different
    obtain ⟨outcomes, agree⟩ := ih different.2
    refine ⟨Function.update outcomes step.1 step.2, List.forall_mem_cons.mpr ⟨?_, fun later member => ?_⟩⟩
    · rw [Function.update_self]
    · have other : later.1 ≠ step.1 := by
        intro same
        exact different.1 (same ▸ List.mem_map_of_mem member)
      rw [Function.update_of_ne other]
      exact agree later member

theorem Goes.visit_eq {expression : Expression α} {steps : List (Nat × Except Failure Bool)}
    {result : Except Failure Bool} (goes : (expression.numberFrom 0).Goes steps result)
    {outcomes : Nat → Except Failure Bool} (agree : ∀ step ∈ steps, step.2 = outcomes step.1) :
    expression.visit outcomes = (result, steps.map Prod.fst) :=
  goes.goes (looks_noted_iff.mpr ⟨agree, rfl⟩)

theorem steps_eq_of_agree {steps : List (Nat × Except Failure Bool)} {outcomes : Nat → Except Failure Bool}
    (agree : ∀ step ∈ steps, step.2 = outcomes step.1) :
    steps = (steps.map Prod.fst).map fun leaf => (leaf, outcomes leaf) := by
  rw [List.map_map]
  refine (List.map_id steps).symm.trans (List.map_congr_left fun step member => ?_)
  exact Prod.ext rfl (agree step member)

/-- An evaluation looks at leaves from left to right and at none twice. Its result is the value of the boolean function
when no look fails, and else the failure of the last one; the leaves that it does not look at change nothing. Looks at
a browser are no different: each evaluation there makes the looks, and has the result, that some assignment of
outcomes says. -/
theorem evaluate_short_circuits (expression : Expression α) :
    (∀ outcomes : Nat → Except Failure Bool,
      let result := (expression.visit outcomes).1
      let visited := (expression.visit outcomes).2
      visited.Sublist (List.range expression.leafCount) ∧
        (∀ truth : Nat → Bool, (∀ leaf ∈ visited, outcomes leaf = .ok (truth leaf)) →
          result = .ok ((expression.numberFrom 0).holds truth)) ∧
        (∀ leaf ∈ visited, ∀ failure, outcomes leaf = .error failure →
          result = .error failure ∧ visited.getLast? = some leaf) ∧
        ∀ others : Nat → Except Failure Bool, (∀ leaf ∈ visited, others leaf = outcomes leaf) →
          expression.visit others = (result, visited)) ∧
      ∀ {σ : Type} (check : α → Action σ Bool) (state : σ), ∃ outcomes after,
        Looks (expression.lookAt check) ((expression.visit outcomes).2.map fun leaf => (leaf, outcomes leaf)) state
            after ∧
          (expression.evaluate check).perform state = ((expression.visit outcomes).1, after) := by
  have numbers : (expression.numberFrom 0).leaves = List.range expression.leafCount :=
    (leaves_numberFrom 0 expression).trans (List.range_eq_range' ..).symm
  constructor
  · intro outcomes
    obtain ⟨steps, result, after, goes, looks⟩ := exists_goes (expression.numberFrom 0) (noted outcomes) []
    have agree := (looks_noted_iff.mp looks).1
    rw [goes.visit_eq agree]
    dsimp only
    refine ⟨numbers ▸ goes.inOrder, fun truth values => ?_, fun leaf member failure fails => ?_, fun others same => ?_⟩
    · refine goes.valued truth fun step member => ?_
      rw [agree step member]
      exact values step.1 (List.mem_map_of_mem member)
    · obtain ⟨step, among, rfl⟩ := List.mem_map.mp member
      obtain ⟨before, behind, split⟩ := List.append_of_mem among
      have outcome : step = (step.1, .error failure) := Prod.ext rfl ((agree step among).trans fails)
      obtain ⟨rfl, ends⟩ := goes.failed before step.1 failure behind (outcome ▸ split)
      refine ⟨ends, ?_⟩
      rw [split, List.map_append, List.map_cons, List.map_nil, List.getLast?_concat]
    · refine goes.visit_eq fun step member => ?_
      rw [agree step member]
      exact (same step.1 (List.mem_map_of_mem member)).symm
  · intro σ check state
    obtain ⟨steps, result, after, goes, looks⟩ :=
      exists_goes (expression.numberFrom 0) (expression.lookAt check) state
    have different : (steps.map Prod.fst).Nodup := goes.inOrder.nodup (numbers ▸ List.nodup_range)
    obtain ⟨outcomes, agree⟩ := exists_outcomes different
    refine ⟨outcomes, after, ?_, ?_⟩
    · rw [goes.visit_eq agree]
      exact steps_eq_of_agree agree ▸ looks
    · rw [goes.visit_eq agree, evaluate_eq_numbered]
      exact goes.goes looks

end

end Expression

end BrowserWait
