import BrowserWait.Proofs.Wait.Chain
import BrowserWait.Wait.Native

/-!
# Building native waits

What each call does to a wait is a table (`Directive.Does`). Any sequence of calls on a fresh wait leaves the expression
that the chain of the calls grows to, whatever ORs lead, repeat or trail. Looking at the browser once is therefore one
scan of the appended clauses.
-/

namespace BrowserWait

/-- A call on a native wait under construction. -/
inductive NativeCall (σ : Type) where
  | directive (directive : Directive)
  /-- A clause of the caller's own, such as a script or a callable. -/
  | clause (clause : Clause σ)

namespace NativeCall

variable {σ : Type}

/-- The call for an OR. -/
def or : NativeCall σ := directive .or

/-- The clause a call appends; an OR appends none. -/
def clause? (flavor : AjaxFlavor) : NativeCall σ → Option (Clause σ)
  | directive step => NativeWait.clause? flavor step
  | clause own => some own

end NativeCall

/-! ## What calls do -/

section

variable {σ : Type} {flavor : AjaxFlavor}

/-- What a directive does to a wait that watches a flavor: it appends a clause, or it is an OR. -/
inductive Directive.Does (flavor : AjaxFlavor) : Directive → Option (Clause σ) → Prop where
  | elementPresent (finder : Finder) : Does flavor (.elementPresent finder) (some (.elementPresent finder.locator))
  | elementNotPresent (finder : Finder) :
    Does flavor (.elementNotPresent finder) (some (.elementNotPresent finder.locator))
  | elementVisible (finder : Finder) : Does flavor (.elementVisible finder) (some (.elementVisible finder.locator))
  | elementNotVisible (finder : Finder) :
    Does flavor (.elementNotVisible finder) (some (.elementNotVisible finder.locator))
  | compared (finder : Finder) (property reference : String) (comparison : Comparison) :
    Does flavor (.evaluateElement finder property reference (some comparison))
      (some (.attributeHolds finder property reference comparison))
  | equated (finder : Finder) (property reference : String) :
    Does flavor (.evaluateElement finder property reference none)
      (some (.attributeHolds finder property reference ⟨"eq", fun value reference => value == reference⟩))
  | ajaxPending : Does flavor .ajaxPending (some (.ajaxPending flavor))
  | ajaxComplete : Does flavor .ajaxComplete (some (.ajaxComplete flavor))
  | pageLoading : Does flavor .pageLoading (some .pageLoading)
  | pageReady : Does flavor .pageReady (some .pageReady)
  | or : Does flavor .or none

/-- What a call does: what its directive does, or it appends the clause it brings. -/
inductive NativeCall.Does (flavor : AjaxFlavor) : NativeCall σ → Option (Clause σ) → Prop where
  | directive {step : Directive} {appended : Option (Clause σ)} (does : step.Does flavor appended) :
    Does flavor (.directive step) appended
  | clause (own : Clause σ) : Does flavor (.clause own) (some own)

/-- A relation that is the graph of a function is so entry by entry. -/
theorem forall₂_iff_map_eq {α β : Type} {related : α → β → Prop} {f : α → β} (graph : ∀ a b, related a b ↔ f a = b)
    {as : List α} {bs : List β} : List.Forall₂ related as bs ↔ as.map f = bs := by
  rw [← List.forall₂_eq_eq_eq, List.forall₂_map_left_iff]
  exact ⟨.imp fun a b => (graph a b).mp, .imp fun a b => (graph a b).mpr⟩

theorem Directive.does_iff (directive : Directive) (step : Option (Clause σ)) :
    directive.Does flavor step ↔ NativeWait.clause? flavor directive = step := by
  constructor
  · rintro (_ | _ | _ | _ | _ | _ | _ | _ | _ | _ | _) <;> rfl
  · rintro rfl
    cases directive with
    | evaluateElement finder property reference comparison =>
      cases comparison with
      | none => exact .equated finder property reference
      | some comparison => exact .compared finder property reference comparison
    | _ => constructor

theorem NativeCall.does_iff (call : NativeCall σ) (step : Option (Clause σ)) :
    call.Does flavor step ↔ call.clause? flavor = step := by
  constructor
  · rintro (does | own)
    · exact (Directive.does_iff _ _).mp does
    · rfl
  · rintro rfl
    cases call with
    | directive step => exact .directive ((Directive.does_iff step _).mpr rfl)
    | clause own => exact .clause own

end

/-- The joiner the next clause gets. -/
def BuildState.joiner : BuildState → Joiner
  | conjunction => .and
  | disjunctionPending => .or

namespace NativeWait

open Expression

variable {σ : Type}

/-- The wait after a call. -/
def call (wait : NativeWait σ) : NativeCall σ → NativeWait σ
  | .directive step => WaitBuilder.apply wait step
  | .clause own => wait.append own

/-- A fresh wait after calls in order. -/
def ofCalls (flavor : AjaxFlavor) (options : PollOptions) (calls : List (NativeCall σ)) : NativeWait σ :=
  calls.foldl call { flavor, options }

/-! ## What a call does -/

theorem append_eq {wait : NativeWait σ} {parts : List (Expression (Clause σ))} (root : wait.root = all parts)
    (clause : Clause σ) :
    wait.append clause =
      { wait with root := all (joinParts parts (wait.state.joiner, clause)), state := .conjunction } := by
  obtain ⟨_, state, flavor, options, deferred⟩ := wait
  subst root
  cases state <;> rfl

theorem disjoin_eq {wait : NativeWait σ} {parts : List (Expression (Clause σ))} (root : wait.root = all parts)
    (some : partsEmpty parts = false) : wait.disjoin = { wait with state := .disjunctionPending } := by
  rw [disjoin, root, isEmpty, some]
  rfl

theorem disjoin_of_isEmpty {wait : NativeWait σ} (none : wait.root.isEmpty = true) : wait.disjoin = wait := by
  rw [disjoin, if_pos none]

/-- A call appends its clause, and is an OR when it has none. -/
theorem call_eq (wait : NativeWait σ) (call : NativeCall σ) :
    wait.call call =
      match call.clause? wait.flavor with
      | some clause => wait.append clause
      | none => wait.disjoin := by
  cases call with
  | directive step => rfl
  | clause own => rfl

theorem options_call (wait : NativeWait σ) (call : NativeCall σ) : (wait.call call).options = wait.options := by
  have append (clause : Clause σ) : (wait.append clause).options = wait.options := by
    rw [NativeWait.append]
    cases wait.state with
    | conjunction => rfl
    | disjunctionPending => rfl
  rw [call_eq]
  cases call.clause? wait.flavor with
  | some clause => exact append clause
  | none =>
    dsimp only
    rw [disjoin]
    split
    · rfl
    · rfl

/-! ## What calls build -/

/-- Behind a clause the calls grow the expression by their chain. -/
theorem foldl_call_behind {wait : NativeWait σ} {parts : List (Expression (Clause σ))} (root : wait.root = all parts)
    (some : partsEmpty parts = false) (calls : List (NativeCall σ)) :
    (calls.foldl call wait).root =
        all ((Chain.ofStepsBehind wait.state.joiner (calls.map (NativeCall.clause? wait.flavor))).foldl
          joinParts parts) ∧
      (calls.foldl call wait).deferred = wait.deferred := by
  induction calls generalizing wait parts with
  | nil => exact ⟨root, rfl⟩
  | cons first calls ih =>
    rw [List.foldl_cons, List.map_cons, call_eq]
    cases appended : first.clause? wait.flavor with
    | none =>
      simp only [disjoin_eq root some]
      exact ih root some
    | some clause =>
      simp only [append_eq root]
      exact ih rfl (partsEmpty_joinParts parts _)

/-- Calls on a fresh wait build what their chain grows to, and defer no failure. -/
theorem ofCalls_eq (flavor : AjaxFlavor) (options : PollOptions) (calls : List (NativeCall σ)) :
    (ofCalls flavor options calls).root = ofChain (Chain.ofSteps (calls.map (NativeCall.clause? flavor))) ∧
      (ofCalls flavor options calls).deferred = none := by
  induction calls with
  | nil => exact ⟨rfl, rfl⟩
  | cons first calls ih =>
    let fresh : NativeWait σ := { flavor, options }
    have start : ofCalls flavor options (first :: calls) = calls.foldl call (fresh.call first) := rfl
    rw [start, call_eq, List.map_cons]
    cases appended : first.clause? flavor with
    | none =>
      simp only [disjoin_of_isEmpty (show fresh.root.isEmpty = true from rfl), Chain.ofSteps]
      exact ih
    | some clause =>
      simp only [append_eq (show fresh.root = all [] from rfl), Chain.ofSteps]
      exact foldl_call_behind rfl (partsEmpty_joinParts [] _) calls

theorem options_ofCalls (flavor : AjaxFlavor) (options : PollOptions) (calls : List (NativeCall σ)) :
    (ofCalls flavor options calls).options = options := by
  have kept (calls : List (NativeCall σ)) (wait : NativeWait σ) : (calls.foldl call wait).options = wait.options := by
    induction calls generalizing wait with
    | nil => rfl
    | cons first calls ih => rw [List.foldl_cons, ih, options_call]
  exact kept calls _

/-! ## Looking once -/

variable [Browser σ]

theorem evaluate_ofCalls (flavor : AjaxFlavor) (options : PollOptions) (calls : List (NativeCall σ)) :
    (ofCalls flavor options calls).evaluate =
      Chain.scan Clause.evaluate true (Chain.ofSteps (calls.map (NativeCall.clause? flavor))) := by
  obtain ⟨root, deferred⟩ := ofCalls_eq flavor options calls
  rw [evaluate, deferred, root]
  exact evaluate_ofChain Clause.evaluate _

/-- Calls do one list of steps, clauses and ORs as the table has it. A look at the browser scans the clauses from left to
right, and ORs that lead, repeat or trail change nothing. The two sides are one action on any browser, be it one that
keeps a record of the calls it gets: the outcome, the calls in their order and the browser left are those of the
scan. -/
theorem evaluate_is_scan (flavor : AjaxFlavor) (options : PollOptions) (calls more : List (NativeCall σ)) :
    ∃ steps, (∀ others, List.Forall₂ (NativeCall.Does flavor) calls others ↔ others = steps) ∧
      (ofCalls flavor options calls).evaluate = Chain.scan Clause.evaluate true (Chain.ofSteps steps) ∧
      (ofCalls flavor options (.or :: calls)).evaluate = (ofCalls flavor options calls).evaluate ∧
      (ofCalls flavor options (calls ++ .or :: .or :: more)).evaluate =
        (ofCalls flavor options (calls ++ .or :: more)).evaluate ∧
      (ofCalls flavor options (calls ++ [.or])).evaluate = (ofCalls flavor options calls).evaluate := by
  have silent : (NativeCall.or : NativeCall σ).clause? flavor = none := rfl
  refine ⟨calls.map (NativeCall.clause? flavor), fun others => (forall₂_iff_map_eq NativeCall.does_iff).trans eq_comm,
    evaluate_ofCalls flavor options calls, ?_, ?_, ?_⟩
  · rw [evaluate_ofCalls, evaluate_ofCalls, List.map_cons, silent]
    rfl
  · rw [evaluate_ofCalls, evaluate_ofCalls]
    simp only [List.map_append, List.map_cons, silent, Chain.ofSteps_repeated_or]
  · rw [evaluate_ofCalls, evaluate_ofCalls]
    simp only [List.map_append, List.map_cons, List.map_nil, silent, Chain.ofSteps_trailing_or]

end NativeWait

end BrowserWait
