import BrowserWait.Proofs.Wait.DirectiveValue

/-!
# Failures kept while building

Either builder keeps the first failure of its steps, whatever is built before and behind it. A wait that keeps a failure
fails with it at every use and looks at nothing, and a wait that keeps none has one clause for every directive that is
no OR. `specs_kept` says so for the waits that both builders make of a list of directives in JSON.
-/

namespace BrowserWait

namespace WaitBuilder

variable {β : Type} [WaitBuilder β] {own : Directive → Option Failure}

/-- A builder that keeps the first failure there is, where `own` are the failures of directives it cannot carry out. -/
structure KeepsFirst (β : Type) [WaitBuilder β] (own : Directive → Option Failure) : Prop where
  failed : ∀ (wait : β) (failure : Failure), deferred? (fail wait failure) = (deferred? wait).or (some failure)
  applied : ∀ (wait : β) (directive : Directive),
    deferred? (apply wait directive) = (deferred? wait).or (own directive)

/-- The failure of one step: that of reading its directive, or that of carrying it out. -/
def stepFailure? (own : Directive → Option Failure) : Except Failure Directive → Option Failure
  | .ok directive => own directive
  | .error failure => some failure

theorem KeepsFirst.applyRead (keeps : KeepsFirst β own) (wait : β) (read : Except Failure Directive) :
    deferred? (applyRead wait read) = (deferred? wait).or (stepFailure? own read) := by
  cases read with
  | ok directive => exact keeps.applied wait directive
  | error failure => exact keeps.failed wait failure

/-- Behind any steps a builder keeps the failure it had, or else the first one among the steps. -/
theorem KeepsFirst.foldl (keeps : KeepsFirst β own) (wait : β) (steps : List (Except Failure Directive)) :
    deferred? (steps.foldl WaitBuilder.applyRead wait) =
      (deferred? wait).or (steps.findSome? (stepFailure? own)) := by
  induction steps generalizing wait with
  | nil => simp
  | cons step steps ih =>
    rw [List.foldl_cons, ih, keeps.applyRead, Option.or_assoc, List.findSome?_cons]
    cases stepFailure? own step <;> rfl

theorem KeepsFirst.stays (keeps : KeepsFirst β own) {wait : β} {failure : Failure}
    (kept : deferred? wait = some failure) (steps : List (Except Failure Directive)) :
    deferred? (steps.foldl WaitBuilder.applyRead wait) = some failure := by
  rw [keeps.foldl, kept, Option.some_or]

theorem applySpecs_eq (wait : β) (specs : List Json) :
    applySpecs wait specs = (specs.map Directive.ofJson).foldl WaitBuilder.applyRead wait := by
  rw [applySpecs, List.foldl_map]

theorem applySpecs_of_read {specs : List Json} {directives : List Directive}
    (read : specs.map Directive.ofJson = directives.map .ok) (wait : β) :
    applySpecs wait specs = applyAll wait directives := by
  rw [applySpecs_eq, read, List.foldl_map]
  rfl

end WaitBuilder

/-! ## Lists of directives in JSON -/

/-- Of a list of values either a first one is refused, or all of them are directives. -/
theorem Directive.specs_cases (specs : List Json) :
    (∃ before spec after failure, specs = before ++ spec :: after ∧
        (∀ earlier ∈ before, ∃ directive, ofJson earlier = .ok directive) ∧ ofJson spec = .error failure) ∨
      ∃ directives : List Directive, specs.map ofJson = directives.map .ok := by
  induction specs with
  | nil => exact .inr ⟨[], rfl⟩
  | cons spec specs ih =>
    cases read : ofJson spec with
    | error failure => exact .inl ⟨[], spec, specs, failure, rfl, by simp, read⟩
    | ok directive =>
      rcases ih with ⟨before, later, after, failure, split, fine, refused⟩ | ⟨directives, fine⟩
      · refine .inl ⟨spec :: before, later, after, failure, by rw [split, List.cons_append], ?_, refused⟩
        intro earlier member
        rcases List.mem_cons.mp member with rfl | member
        · exact ⟨directive, read⟩
        · exact fine earlier member
      · exact .inr ⟨directive :: directives, by rw [List.map_cons, List.map_cons, read, fine]⟩

theorem Directive.comparison?_of_specs {specs : List Json} {directives : List Directive}
    (read : specs.map ofJson = directives.map .ok) : ∀ directive ∈ directives, directive.comparison? = none := by
  intro directive member
  have listed : (.ok directive : Except Failure Directive) ∈ specs.map ofJson := by
    rw [read]
    exact List.mem_map_of_mem member
  obtain ⟨spec, _, read⟩ := List.mem_map.mp listed
  exact comparison?_of_ofJson read

/-- The failure of the first value that is refused is the first failure of all steps, whichever failures of its own a
builder has for comparisons. -/
theorem WaitBuilder.findSome?_specs {own : Directive → Option Failure}
    (plain : ∀ directive, directive.comparison? = none → own directive = none) {before after : List Json} {spec : Json}
    {failure : Failure} (fine : ∀ earlier ∈ before, ∃ directive, Directive.ofJson earlier = .ok directive)
    (refused : Directive.ofJson spec = .error failure) :
    ((before ++ spec :: after).map Directive.ofJson).findSome? (stepFailure? own) = some failure := by
  have silent : (before.map Directive.ofJson).findSome? (stepFailure? own) = none := by
    rw [List.findSome?_eq_none_iff]
    intro step member
    obtain ⟨earlier, there, rfl⟩ := List.mem_map.mp member
    obtain ⟨directive, read⟩ := fine earlier there
    rw [read]
    exact plain directive (Directive.comparison?_of_ofJson read)
  rw [List.map_append, List.findSome?_append, silent, Option.none_or, List.map_cons, refused]
  rfl

theorem WaitBuilder.KeepsFirst.refused {β : Type} [WaitBuilder β] {own : Directive → Option Failure}
    (keeps : KeepsFirst β own) (plain : ∀ directive, directive.comparison? = none → own directive = none) {wait : β}
    (fresh : deferred? wait = none) {before after : List Json} {spec : Json} {failure : Failure}
    (fine : ∀ earlier ∈ before, ∃ directive, Directive.ofJson earlier = .ok directive)
    (refused : Directive.ofJson spec = .error failure) :
    deferred? (applySpecs wait (before ++ spec :: after)) = some failure := by
  rw [applySpecs_eq, keeps.foldl, fresh, findSome?_specs plain fine refused, Option.none_or]

/-! ## Both builders -/

namespace NativeWait

variable {σ : Type}

theorem deferred_apply (wait : NativeWait σ) (directive : Directive) :
    (wait.apply directive).deferred = wait.deferred := by
  unfold apply
  cases clause? wait.flavor directive with
  | some clause =>
    dsimp only
    unfold append
    cases wait.state <;> rfl
  | none =>
    dsimp only
    unfold disjoin
    split <;> rfl

theorem keepsFirst : WaitBuilder.KeepsFirst (NativeWait σ) fun _ => none where
  failed _ _ := rfl
  applied wait directive := by rw [Option.or_none]; exact deferred_apply wait directive

/-- A wait that fails at every use, and leaves the browser with all it records, the clock and the flag as they are. -/
structure FailsWith [Browser σ] (wait : NativeWait σ) (failure : Failure) : Prop where
  evaluate : ∀ browser, wait.evaluate.perform browser = (.error failure, browser)
  waitResult : ∀ timeout world, (wait.waitResult timeout).perform world = (.error failure, world)
  wait : ∀ timeout world, (wait.wait timeout).perform world = (.error failure, world)

theorem failsWith_of_deferred [Browser σ] {wait : NativeWait σ} {failure : Failure}
    (kept : wait.deferred = some failure) : wait.FailsWith failure := by
  have result : ∀ timeout world, (wait.waitResult timeout).perform world = (.error failure, world) := by
    intro timeout world
    rw [NativeWait.waitResult, kept]
    rfl
  refine ⟨fun browser => ?_, result, fun timeout world => ?_⟩
  · rw [NativeWait.evaluate, kept]
    rfl
  · rw [NativeWait.wait, Action.perform_bind, result]

end NativeWait

namespace ScriptWait

/-- The failure of a directive that cannot run on the server. -/
def unsupported? (directive : Directive) : Option Failure :=
  directive.comparison?.map fun _ => .unsupportedPredicate "selenium"

theorem keepsFirst : WaitBuilder.KeepsFirst ScriptWait unsupported? where
  failed _ _ := rfl
  applied wait directive := by
    cases directive with
    | evaluateElement finder property reference comparison =>
      cases comparison with
      | none => exact (Option.or_none).symm
      | some comparison => rfl
    | _ => exact (Option.or_none).symm

theorem compile_of_deferred {wait : ScriptWait} {failure : Failure} (kept : wait.deferred = some failure) :
    wait.compile = .error failure := by
  rw [compile, kept]

end ScriptWait

/-! ## The waits of a list -/

section

variable {σ : Type} {directives : List Directive}

theorem leaves_native (flavor : AjaxFlavor) (options : PollOptions) :
    (WaitBuilder.applyAll ({ flavor, options } : NativeWait σ) directives).root.leaves.map some =
      (directives.filterMap Directive.atom?).map (NativeWait.clause? flavor) := by
  have clauses := congrArg (List.map Prod.snd) (native_chain σ flavor directives)
  have atoms := Chain.map_snd_ofSteps (directives.map Directive.atom?)
  rw [List.filterMap_map, Function.id_comp] at atoms
  rw [(native_applyAll σ flavor options directives).1, Expression.leaves_ofChain, ← atoms]
  simpa [Function.comp_def] using clauses

theorem fragments_script (accepted : ∀ directive ∈ directives, directive.comparison? = none)
    (diagnostics : Diagnostics) (flavor : AjaxFlavor) :
    ((WaitBuilder.applyAll ({ diagnostics, flavor } : ScriptWait) directives).parts.filterMap
        Part.fragment?).map some =
      (directives.filterMap Directive.atom?).map (ScriptWait.fragment? diagnostics flavor) := by
  have fragments := congrArg (List.map Prod.snd) (script_chain flavor diagnostics accepted)
  have atoms := Chain.map_snd_ofSteps (directives.map Directive.atom?)
  let wait : ScriptWait := WaitBuilder.applyAll { diagnostics, flavor } directives
  have chain : wait.chain.map Prod.snd = wait.parts.filterMap Part.fragment? := by
    rw [ScriptWait.chain, Chain.map_snd_ofSteps, List.filterMap_map, Function.id_comp]
  rw [List.filterMap_map, Function.id_comp] at atoms
  rw [← chain, (ScriptWait.chain_applyAll accepted diagnostics flavor).1, ← atoms]
  simpa [Function.comp_def] using fragments

end

/-- Both builders make alike of a list of directives in JSON. With a value among them that is refused they keep the
failure of the first such value, whatever stands in front of it and behind it and whatever else is built on it:
compiling fails with it, and so does every use of the native wait, which looks at nothing. Without one they keep no
failure, and have one clause for every directive that is no OR, in order. -/
theorem specs_kept (σ : Type) [Browser σ] (flavor scriptFlavor : AjaxFlavor) (options : PollOptions)
    (diagnostics : Diagnostics) (specs : List Json) :
    let native : NativeWait σ := WaitBuilder.applySpecs { flavor, options } specs
    let script : ScriptWait := WaitBuilder.applySpecs { diagnostics, flavor := scriptFlavor } specs
    (∃ before spec after failure, specs = before ++ spec :: after ∧
        (∀ earlier ∈ before, ∃ directive, Directive.ofJson earlier = .ok directive) ∧
        Directive.ofJson spec = .error failure ∧
        native.deferred = some failure ∧ script.deferred = some failure ∧
        ∀ more : List (Except Failure Directive),
          (more.foldl WaitBuilder.applyRead native).FailsWith failure ∧
            (more.foldl WaitBuilder.applyRead script).compile = .error failure) ∨
      ∃ directives : List Directive, specs.map Directive.ofJson = directives.map .ok ∧
        native.deferred = none ∧ script.deferred = none ∧
        native.root.leaves.map some = (directives.filterMap Directive.atom?).map (NativeWait.clause? flavor) ∧
        (script.parts.filterMap Part.fragment?).map some =
          (directives.filterMap Directive.atom?).map (ScriptWait.fragment? diagnostics scriptFlavor) := by
  intro native script
  rcases Directive.specs_cases specs with ⟨before, spec, after, failure, split, fine, refused⟩ | ⟨directives, read⟩
  · -- values bring no comparisons, which is all that the two builders refuse differently
    have plain : ∀ directive : Directive, directive.comparison? = none → ScriptWait.unsupported? directive = none := by
      intro directive plain
      rw [ScriptWait.unsupported?, plain]
      rfl
    have nativeKept : native.deferred = some failure := by
      simp only [native, split]
      exact NativeWait.keepsFirst.refused (fun _ _ => rfl) rfl fine refused
    have scriptKept : script.deferred = some failure := by
      simp only [script, split]
      exact ScriptWait.keepsFirst.refused plain rfl fine refused
    refine .inl ⟨before, spec, after, failure, split, fine, refused, nativeKept, scriptKept, fun more => ⟨?_, ?_⟩⟩
    · exact NativeWait.failsWith_of_deferred (NativeWait.keepsFirst.stays nativeKept more)
    · exact ScriptWait.compile_of_deferred (ScriptWait.keepsFirst.stays scriptKept more)
  · have accepted := Directive.comparison?_of_specs read
    refine .inr ⟨directives, read, ?_⟩
    rw [show native = _ from WaitBuilder.applySpecs_of_read read _,
      show script = _ from WaitBuilder.applySpecs_of_read read _]
    exact ⟨(native_applyAll σ flavor options directives).2,
      (ScriptWait.chain_applyAll accepted diagnostics scriptFlavor).2, leaves_native flavor options,
      fragments_script accepted diagnostics scriptFlavor⟩

end BrowserWait
