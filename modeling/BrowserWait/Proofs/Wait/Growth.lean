import BrowserWait.Proofs.Wait.DirectiveValue
import Mathlib.Data.List.Induction

/-!
# The growth of native waits

A wait under construction is given directives, clauses and lists in JSON, failures, and settings in between; what each
call does is a table (`BuilderCall.Does`). Whatever the calls, its expression stays a conjunction, so that nothing put
onto it is lost; its leaves are the clauses that were appended, once each and in order; and an OR is pending exactly when
one came behind the last clause (`leaves_are_the_clauses`).
-/

namespace BrowserWait

namespace Expression

variable {α : Type}

/-! ## Counting and growing -/

mutual

/-- No leaf is to be found exactly when there are none to count. -/
theorem isEmpty_iff (expression : Expression α) : expression.isEmpty = true ↔ expression.leafCount = 0 := by
  cases expression with
  | leaf content => simp [isEmpty, leafCount]
  | all parts => exact partsEmpty_iff parts
  | any parts => exact partsEmpty_iff parts

theorem partsEmpty_iff (parts : List (Expression α)) : partsEmpty parts = true ↔ leafCountOfParts parts = 0 := by
  cases parts with
  | nil => simp [partsEmpty, leafCountOfParts]
  | cons part more =>
    rw [partsEmpty, leafCountOfParts, Bool.and_eq_true, isEmpty_iff part, partsEmpty_iff more, Nat.add_eq_zero_iff]

end

/-- A further part of a conjunction is behind all of its leaves. -/
theorem leaves_push_all (parts : List (Expression α)) (part : Expression α) :
    ((all parts).push part).leaves = (all parts).leaves ++ part.leaves := by
  simp [push, leaves, leavesOfParts_append, leavesOfParts]

end Expression

/-! ## The calls -/

/-- A JSON value specifies a directive: it is a list of the name and the arguments that write it down. -/
def Json.Specifies (value : Json) (directive : Directive) : Prop :=
  ∃ name arguments, value = .array (.string name :: arguments) ∧ Directive.Writes name arguments directive

/-- A call in building a native wait. -/
inductive BuilderCall (σ : Type) where
  /-- A verb, or a clause of the caller's own. -/
  | verb (call : NativeCall σ)
  /-- A directive that may have failed to be read. -/
  | read (outcome : Except Failure Directive)
  | all (directives : List Directive)
  /-- Directives as JSON values, each of which may fail to be read. -/
  | specs (values : List Json)
  | fail (failure : Failure)
  | watch (flavor : AjaxFlavor)
  | poll (options : PollOptions)
  | diagnose (diagnostics : Diagnostics)

namespace BuilderCall

variable {σ : Type}

/-- The flavor that the clauses behind a call are made for. -/
def flavorBehind (flavor : AjaxFlavor) : BuilderCall σ → AjaxFlavor
  | watch other => other
  | _ => flavor

/-- What a call does to a wait that watches a flavor: the clauses it appends and its ORs, in order. What cannot be read
is neither, and a failure or a setting does nothing. -/
inductive Does (flavor : AjaxFlavor) : BuilderCall σ → List (Option (Clause σ)) → Prop where
  | verb {call : NativeCall σ} {step : Option (Clause σ)} (does : call.Does flavor step) : Does flavor (verb call) [step]
  | read {directive : Directive} {step : Option (Clause σ)} (does : directive.Does flavor step) :
    Does flavor (read (.ok directive)) [step]
  | unread (failure : Failure) : Does flavor (read (.error failure)) []
  | all {directives : List Directive} {steps : List (Option (Clause σ))}
    (each : List.Forall₂ (Directive.Does flavor) directives steps) : Does flavor (all directives) steps
  | specs {values : List Json} {specified : List (Option Directive)} {steps : List (Option (Clause σ))}
    (read : List.Forall₂ (fun value found => ∀ directive, found = some directive ↔ value.Specifies directive) values
      specified)
    (each : List.Forall₂ (Directive.Does flavor) (specified.filterMap id) steps) : Does flavor (specs values) steps
  | fail (failure : Failure) : Does flavor (fail failure) []
  | watch (other : AjaxFlavor) : Does flavor (watch other) []
  | poll (options : PollOptions) : Does flavor (poll options) []
  | diagnose (diagnostics : Diagnostics) : Does flavor (diagnose diagnostics) []

/-- What calls in order do, each for the flavor that is watched when it is made. -/
inductive AllDo : AjaxFlavor → List (BuilderCall σ) → List (Option (Clause σ)) → Prop where
  | nil (flavor : AjaxFlavor) : AllDo flavor [] []
  | cons {flavor : AjaxFlavor} {call : BuilderCall σ} {more : List (BuilderCall σ)}
    {steps behind : List (Option (Clause σ))} (does : call.Does flavor steps)
    (allDo : AllDo (call.flavorBehind flavor) more behind) : AllDo flavor (call :: more) (steps ++ behind)

/-! ### Their steps, computed -/

/-- The steps of a call. -/
def steps (flavor : AjaxFlavor) : BuilderCall σ → List (Option (Clause σ))
  | verb call => [call.clause? flavor]
  | read outcome => outcome.toOption.toList.map (NativeWait.clause? flavor)
  | all directives => directives.map (NativeWait.clause? flavor)
  | specs values => (values.filterMap fun value => (Directive.ofJson value).toOption).map (NativeWait.clause? flavor)
  | fail _ | watch _ | poll _ | diagnose _ => []

/-- The steps of calls in order. -/
def stepsOf (flavor : AjaxFlavor) : List (BuilderCall σ) → List (Option (Clause σ))
  | [] => []
  | call :: more => call.steps flavor ++ stepsOf (call.flavorBehind flavor) more

theorem specifies_iff (value : Json) (found : Option Directive) :
    (∀ directive, found = some directive ↔ value.Specifies directive) ↔ (Directive.ofJson value).toOption = found := by
  have read (directive : Directive) :
      (Directive.ofJson value).toOption = some directive ↔ value.Specifies directive := by
    refine Iff.trans ?_ (Directive.ofJson_eq_ok_iff value directive)
    cases Directive.ofJson value <;> simp [Except.toOption]
  constructor
  · intro specified
    exact Option.ext fun directive => (read directive).trans (specified directive).symm
  · rintro rfl
    exact read

/-- By the table a call does exactly its computed steps. -/
theorem does_iff {flavor : AjaxFlavor} {call : BuilderCall σ} {done : List (Option (Clause σ))} :
    call.Does flavor done ↔ call.steps flavor = done := by
  constructor
  · intro does
    cases does with
    | verb does => rw [steps, (NativeCall.does_iff _ _).mp does]
    | read does => exact congrArg ([·]) ((Directive.does_iff _ _).mp does)
    | all each => exact (forall₂_iff_map_eq Directive.does_iff).mp each
    | specs read each =>
      rw [← (forall₂_iff_map_eq specifies_iff).mp read, List.filterMap_map, forall₂_iff_map_eq Directive.does_iff]
        at each
      exact each
    | unread | fail | watch | poll | diagnose => rfl
  · rintro rfl
    cases call with
    | verb call => exact .verb ((NativeCall.does_iff call _).mpr rfl)
    | read outcome =>
      cases outcome with
      | ok directive => exact .read ((Directive.does_iff directive _).mpr rfl)
      | error failure => exact .unread failure
    | all directives => exact .all ((forall₂_iff_map_eq Directive.does_iff).mpr rfl)
    | specs values =>
      refine .specs ((forall₂_iff_map_eq specifies_iff).mpr rfl) ?_
      rw [List.filterMap_map]
      exact (forall₂_iff_map_eq Directive.does_iff).mpr rfl
    | _ => constructor

theorem allDo_iff {flavor : AjaxFlavor} {calls : List (BuilderCall σ)} {done : List (Option (Clause σ))} :
    AllDo flavor calls done ↔ stepsOf flavor calls = done := by
  constructor
  · intro allDo
    induction allDo with
    | nil => rfl
    | cons does _ ih => rw [stepsOf, does_iff.mp does, ih]
  · rintro rfl
    induction calls generalizing flavor with
    | nil => exact .nil flavor
    | cons call calls ih => exact .cons (does_iff.mpr rfl) ih

end BuilderCall

/-- An OR came behind the last clause, and there was a clause. -/
def OrBehindLast {α : Type} (steps : List (Option α)) : Prop :=
  ∃ front clause ors, steps = front ++ some clause :: ors ∧ ors ≠ [] ∧ ∀ step ∈ ors, step = none

section

variable {α : Type}

theorem not_orBehindLast_concat_some (steps : List (Option α)) (clause : α) :
    ¬ OrBehindLast (steps ++ [some clause]) := by
  rintro ⟨front, other, ors, split, filled, silent⟩
  have last := congrArg List.getLast? split
  rw [List.getLast?_concat, List.getLast?_append_of_ne_nil _ (List.cons_ne_nil _ _), List.getLast?_cons_of_ne_nil filled,
    eq_comm] at last
  exact absurd (silent _ (List.mem_of_getLast? last)) (Option.some_ne_none clause)

/-- Behind a further OR it is enough that there was a clause. -/
theorem orBehindLast_concat_none (steps : List (Option α)) :
    OrBehindLast (steps ++ [none]) ↔ steps.filterMap id ≠ [] := by
  constructor
  · rintro ⟨front, clause, ors, split, filled, silent⟩
    obtain ⟨ors, rfl⟩ : ∃ more, ors = more ++ [none] := by
      rcases List.eq_nil_or_concat ors with rfl | ⟨more, last, rfl⟩
      · exact absurd rfl filled
      · exact ⟨more, by rw [silent last (by simp), List.concat_eq_append]⟩
    rw [← List.cons_append, ← List.append_assoc] at split
    rw [List.append_cancel_right split]
    simp
  · intro some
    induction steps using List.reverseRecOn with
    | nil => exact absurd rfl some
    | append_singleton steps step ih =>
      cases step with
      | some clause => exact ⟨steps, clause, [none], by simp, by simp, by simp⟩
      | none =>
        obtain ⟨front, clause, ors, split, _, silent⟩ := ih (by simpa using some)
        refine ⟨front, clause, ors ++ [none], by rw [split, List.append_assoc, List.cons_append], by simp, ?_⟩
        intro step member
        rcases List.mem_append.mp member with earlier | last
        · exact silent step earlier
        · exact List.mem_singleton.mp last

end

namespace NativeWait

open Expression

variable {σ : Type}

/-- The wait after a call of any kind. -/
def make (wait : NativeWait σ) : BuilderCall σ → NativeWait σ
  | .verb call => wait.call call
  | .read outcome => WaitBuilder.applyRead wait outcome
  | .all directives => WaitBuilder.applyAll wait directives
  | .specs values => WaitBuilder.applySpecs wait values
  | .fail failure => WaitBuilder.fail wait failure
  | .watch flavor => { wait with flavor }
  | .poll options => { wait with options }
  | .diagnose diagnostics => { wait with options := { wait.options with diagnostics } }

/-! ## What every call keeps -/

/-- A wait that watches `flavor` has grown by clauses and ORs. -/
structure Grown (flavor : AjaxFlavor) (steps : List (Option (Clause σ))) (wait : NativeWait σ) : Prop where
  flavor_eq : wait.flavor = flavor
  conjunction : ∃ parts, wait.root = all parts
  leaves_eq : wait.root.leaves = steps.filterMap id
  pending_iff : wait.state = .disjunctionPending ↔ OrBehindLast steps

section

variable {flavor : AjaxFlavor} {steps : List (Option (Clause σ))} {wait : NativeWait σ}

theorem Grown.isEmpty_iff (grown : Grown flavor steps wait) :
    wait.root.isEmpty = true ↔ steps.filterMap id = [] := by
  rw [Expression.isEmpty_iff, ← length_leaves, List.length_eq_zero_iff, grown.leaves_eq]

theorem Grown.append (grown : Grown flavor steps wait) (clause : Clause σ) :
    Grown flavor (steps ++ [some clause]) (wait.append clause) := by
  obtain ⟨parts, root⟩ := grown.conjunction
  have leaves : leavesOfParts parts = steps.filterMap id := by rw [← grown.leaves_eq, root, Expression.leaves]
  rw [append_eq root]
  refine ⟨grown.flavor_eq, ⟨_, rfl⟩, ?_, ?_⟩
  · rw [Expression.leaves, leavesOfParts_joinParts, leaves, List.filterMap_append]
    rfl
  · exact iff_of_false BuildState.noConfusion (not_orBehindLast_concat_some steps clause)

theorem Grown.disjoin (grown : Grown flavor steps wait) : Grown flavor (steps ++ [none]) wait.disjoin := by
  have same : (steps ++ [none]).filterMap id = steps.filterMap id := by simp
  by_cases none : wait.root.isEmpty = true
  · -- there is no clause for the OR to come behind, so none is pending, now as before
    have clauses : steps.filterMap id = [] := grown.isEmpty_iff.mp none
    rw [disjoin_of_isEmpty none]
    refine ⟨grown.flavor_eq, grown.conjunction, same ▸ grown.leaves_eq, ?_⟩
    rw [grown.pending_iff, orBehindLast_concat_none]
    refine iff_of_false ?_ (not_not_intro clauses)
    rintro ⟨front, clause, ors, rfl, _⟩
    simp at clauses
  · obtain ⟨parts, root⟩ := grown.conjunction
    have some : partsEmpty parts = false := by
      rw [root] at none
      exact Bool.eq_false_iff.mpr none
    have clauses : steps.filterMap id ≠ [] := fun clauses => none (grown.isEmpty_iff.mpr clauses)
    rw [disjoin_eq root some]
    exact ⟨grown.flavor_eq, grown.conjunction, same ▸ grown.leaves_eq,
      iff_of_true rfl ((orBehindLast_concat_none steps).mpr clauses)⟩

theorem Grown.call (grown : Grown flavor steps wait) (call : NativeCall σ) :
    Grown flavor (steps ++ [call.clause? flavor]) (wait.call call) := by
  rw [call_eq, grown.flavor_eq]
  cases call.clause? flavor with
  | some clause => exact grown.append clause
  | none => exact grown.disjoin

theorem Grown.applyRead (grown : Grown flavor steps wait) (outcome : Except Failure Directive) :
    Grown flavor (steps ++ outcome.toOption.toList.map (clause? flavor)) (WaitBuilder.applyRead wait outcome) := by
  cases outcome with
  | ok directive => exact grown.call (.directive directive)
  | error failure =>
    rw [show (Except.error failure : Except Failure Directive).toOption.toList = [] from rfl, List.map_nil,
      List.append_nil]
    exact ⟨grown.flavor_eq, grown.conjunction, grown.leaves_eq, grown.pending_iff⟩

theorem Grown.foldl_applyRead (grown : Grown flavor steps wait) (outcomes : List (Except Failure Directive)) :
    Grown flavor (steps ++ (outcomes.filterMap Except.toOption).map (clause? flavor))
      (outcomes.foldl WaitBuilder.applyRead wait) := by
  induction outcomes generalizing steps wait with
  | nil => simpa using grown
  | cons outcome outcomes ih =>
    have behind := ih (grown.applyRead outcome)
    rw [List.append_assoc, ← List.map_append] at behind
    rw [List.foldl_cons, List.filterMap_cons]
    cases read : outcome.toOption with
    | none => simpa [read] using behind
    | some directive => simpa [read] using behind

theorem Grown.applyAll (grown : Grown flavor steps wait) (directives : List Directive) :
    Grown flavor (steps ++ directives.map (clause? flavor)) (WaitBuilder.applyAll wait directives) := by
  have behind := grown.foldl_applyRead (directives.map .ok)
  rw [List.filterMap_map, List.foldl_map, show Except.toOption ∘ .ok = some from rfl, List.filterMap_some] at behind
  exact behind

theorem Grown.applySpecs (grown : Grown flavor steps wait) (values : List Json) :
    Grown flavor (steps ++ (values.filterMap fun value => (Directive.ofJson value).toOption).map (clause? flavor))
      (WaitBuilder.applySpecs wait values) := by
  have behind := grown.foldl_applyRead (values.map Directive.ofJson)
  rw [List.filterMap_map, List.foldl_map] at behind
  exact behind

/-- Every call grows a wait by its own clauses and ORs. -/
theorem Grown.make (grown : Grown flavor steps wait) (call : BuilderCall σ) :
    Grown (call.flavorBehind flavor) (steps ++ call.steps flavor) (wait.make call) := by
  cases call with
  | verb call => exact grown.call call
  | read outcome => exact grown.applyRead outcome
  | all directives => exact grown.applyAll directives
  | specs values => exact grown.applySpecs values
  | watch other =>
    rw [BuilderCall.steps, List.append_nil]
    exact ⟨rfl, grown.conjunction, grown.leaves_eq, grown.pending_iff⟩
  | fail _ | poll _ | diagnose _ =>
    rw [BuilderCall.steps, List.append_nil]
    exact ⟨grown.flavor_eq, grown.conjunction, grown.leaves_eq, grown.pending_iff⟩

/-- Calls in order grow a wait by all their clauses and ORs. -/
theorem Grown.foldl_make (grown : Grown flavor steps wait) (calls : List (BuilderCall σ)) :
    ∃ last, Grown last (steps ++ BuilderCall.stepsOf flavor calls) (calls.foldl NativeWait.make wait) := by
  induction calls generalizing flavor steps wait with
  | nil => exact ⟨flavor, by simpa [BuilderCall.stepsOf] using grown⟩
  | cons call calls ih =>
    rw [List.foldl_cons, BuilderCall.stepsOf, ← List.append_assoc]
    exact ih (grown.make call)

theorem grown_nil : Grown .jQuery [] ({} : NativeWait σ) := by
  refine ⟨rfl, ⟨[], rfl⟩, rfl, iff_of_false BuildState.noConfusion ?_⟩
  rintro ⟨front, clause, ors, split, _⟩
  simp at split

end

/-- Calls do one list of steps, clauses and ORs. Whatever calls a wait is built by, its expression is a conjunction, and
a part more is behind all of its leaves. Its leaves are the clauses that the calls appended, in order, and it has as many
as there were. An OR is pending exactly when there was a clause and an OR came behind the last one. An expression, be it
one that was built so or any other, is empty exactly when it has no leaf to count. -/
theorem leaves_are_the_clauses (calls : List (BuilderCall σ)) :
    let wait : NativeWait σ := calls.foldl make {}
    ∃ steps, (∀ others, BuilderCall.AllDo .jQuery calls others ↔ others = steps) ∧
      (∃ parts, wait.root = all parts) ∧
      (∀ part, (wait.root.push part).leaves = wait.root.leaves ++ part.leaves) ∧
      wait.root.leafCount = (steps.filterMap id).length ∧
      wait.root.leaves = steps.filterMap id ∧
      (wait.state = .disjunctionPending ↔ OrBehindLast steps) ∧
      ∀ {α : Type} (expression : Expression α), expression.isEmpty = true ↔ expression.leafCount = 0 := by
  obtain ⟨_, grown⟩ := grown_nil.foldl_make calls
  rw [List.nil_append] at grown
  obtain ⟨parts, root⟩ := grown.conjunction
  refine ⟨BuilderCall.stepsOf .jQuery calls, fun others => BuilderCall.allDo_iff.trans eq_comm, ⟨parts, root⟩,
    fun part => ?_, ?_, grown.leaves_eq, grown.pending_iff, Expression.isEmpty_iff⟩
  · rw [root]
    exact leaves_push_all parts part
  · rw [← length_leaves, grown.leaves_eq]

end NativeWait

end BrowserWait
