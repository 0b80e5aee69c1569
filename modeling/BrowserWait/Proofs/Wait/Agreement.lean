import BrowserWait.Proofs.Wait.Building
import BrowserWait.Proofs.Wait.Precedence
import BrowserWait.Wait.Script

/-!
# Agreement of the two builders

The native and the script builder keep the same atoms with the same joiners, each in its own form: one as an
expression, the other as parts that are joined to one text. `builders_agree_iff` says when the two forms mean the
same.
-/

namespace BrowserWait

/-! ## Expressions as boolean functions -/

namespace Expression

variable {α : Type}

mutual

/-- An expression whose leaves are numbered from left to right, beginning with `first`. -/
def numberFrom (first : Nat) : Expression α → Expression Nat
  | leaf _ => leaf first
  | all parts => all (numberPartsFrom first parts)
  | any parts => any (numberPartsFrom first parts)

/-- Parts whose leaves are numbered from left to right, beginning with `first`. -/
def numberPartsFrom (first : Nat) : List (Expression α) → List (Expression Nat)
  | [] => []
  | part :: more => part.numberFrom first :: numberPartsFrom (first + part.leafCount) more

end

/-- The value of an expression whose leaves, in order, have the values of `truth`. -/
def truthValue (truth : Nat → Bool) (expression : Expression α) : Bool :=
  Id.run ((expression.numberFrom 0).evaluate fun atom => pure (truth atom))

end Expression

/-! ## Scripts as chains -/

/-- The clause of a part; an OR has none. -/
def Part.fragment? : Part → Option Fragment
  | .fragment content => some content
  | .or => none

/-- The fragment a directive adds to a script, if it adds one. -/
def ScriptWait.fragment? (diagnostics : Diagnostics) (flavor : AjaxFlavor) (directive : Directive) : Option Fragment :=
  match ScriptWait.part diagnostics flavor directive with
  | .ok part => part.fragment?
  | .error _ => none

namespace Directive

/-- The directive as an atom of a wait; an OR is none. -/
def atom? : Directive → Option Directive
  | or => none
  | directive => some directive

/-- The comparison of its own that a directive brings. -/
def comparison? : Directive → Option Comparison
  | evaluateElement _ _ _ comparison => comparison
  | _ => none

end Directive

namespace ScriptWait

/-- The clauses of a script wait with their joiners. -/
def chain (wait : ScriptWait) : Chain Fragment := Chain.ofSteps (wait.parts.map Part.fragment?)

/-- The scripts of the clauses, in order, as they stand in the condition. -/
def atoms (wait : ScriptWait) : List String := wait.chain.map fun link => onOneLine link.2.script

/-! ### Building -/

theorem ofSteps_addPart (parts : List Part) (part : Part) (more : List (Option Fragment)) :
    Chain.ofSteps ((addPart parts part).map Part.fragment? ++ more) =
      Chain.ofSteps (parts.map Part.fragment? ++ part.fragment? :: more) := by
  cases part with
  | fragment fragment => simp [addPart]
  | or =>
    cases last : parts.getLast? with
    | none =>
      rw [List.getLast?_eq_none_iff] at last
      subst last
      rfl
    | some part =>
      cases part with
      | fragment fragment => simp [addPart, last]
      | or =>
        obtain ⟨front, split⟩ := List.getLast?_eq_some_iff.mp last
        have twice := Chain.ofSteps_repeated_or (front.map Part.fragment?) more
        rw [addPart, last]
        simp only [split, List.map_append, List.map_cons, List.map_nil, Part.fragment?,
          List.append_assoc, List.singleton_append]
        exact twice.symm

theorem part_of_accepted (diagnostics : Diagnostics) (flavor : AjaxFlavor) {directive : Directive}
    (accepted : directive.comparison? = none) : ∃ part, ScriptWait.part diagnostics flavor directive = .ok part := by
  cases directive with
  | evaluateElement finder property reference comparison =>
    cases comparison with
    | none => exact ⟨_, rfl⟩
    | some comparison => cases accepted
  | _ => exact ⟨_, rfl⟩

/-- Accepted directives add their steps to the chain of a script wait, and no failure. -/
theorem foldl_apply {directives : List Directive} (accepted : ∀ directive ∈ directives, directive.comparison? = none)
    (wait : ScriptWait) :
    Chain.ofSteps ((directives.foldl apply wait).parts.map Part.fragment?) =
        Chain.ofSteps (wait.parts.map Part.fragment? ++
          directives.map (ScriptWait.fragment? wait.diagnostics wait.flavor)) ∧
      (directives.foldl apply wait).deferred = wait.deferred := by
  induction directives generalizing wait with
  | nil => exact ⟨by simp, rfl⟩
  | cons directive directives ih =>
    obtain ⟨part, adds⟩ := part_of_accepted wait.diagnostics wait.flavor (accepted directive List.mem_cons_self)
    have applied : wait.apply directive = { wait with parts := addPart wait.parts part } := by rw [apply, adds]
    have step : ScriptWait.fragment? wait.diagnostics wait.flavor directive = part.fragment? := by
      rw [ScriptWait.fragment?, adds]
    obtain ⟨chain, deferred⟩ := ih (fun later member => accepted later (List.mem_cons_of_mem _ member))
      (wait.apply directive)
    rw [List.foldl_cons, List.map_cons, step, ← ofSteps_addPart, chain, deferred, applied]
    exact ⟨rfl, rfl⟩

theorem chain_applyAll {directives : List Directive}
    (accepted : ∀ directive ∈ directives, directive.comparison? = none) (diagnostics : Diagnostics)
    (flavor : AjaxFlavor) :
    (WaitBuilder.applyAll ({ diagnostics, flavor } : ScriptWait) directives).chain =
        Chain.ofSteps (directives.map (ScriptWait.fragment? diagnostics flavor)) ∧
      (WaitBuilder.applyAll ({ diagnostics, flavor } : ScriptWait) directives).deferred = none :=
  foldl_apply accepted { diagnostics, flavor }

/-! ### Compiling -/

section

variable {textOf : Fragment → String}

theorem joinOnto_behind (parts : List Part) {soFar : String} (started : soFar ≠ "") (orPending : Bool) :
    joinOnto textOf soFar orPending parts =
      (Chain.ofStepsBehind (if orPending then .or else .and) (parts.map Part.fragment?)).foldl
        (fun text link => text ++ link.1.operator ++ textOf link.2) soFar := by
  induction parts generalizing soFar orPending with
  | nil => rfl
  | cons part parts ih =>
    cases part with
    | or => exact ih started true
    | fragment content =>
      have longer : soFar ++ (if orPending then " || " else " && ") ++ textOf content ≠ "" := by
        intro none
        rw [String.append_eq_empty_iff, String.append_eq_empty_iff] at none
        exact started none.1.1
      have operator : (if orPending then " || " else " && ") = (if orPending then Joiner.or else .and).operator := by
        cases orPending <;> rfl
      rw [joinOnto, if_neg started, ih longer false, operator]
      rfl

/-- The texts of clauses, joined, when none of them is empty. -/
theorem joinOnto_of_chain (texts : ∀ fragment, textOf fragment ≠ "") {parts : List Part} {joiner : Joiner}
    {first : Fragment} {links : Chain Fragment}
    (filled : Chain.ofSteps (parts.map Part.fragment?) = (joiner, first) :: links) (orPending : Bool) :
    joinOnto textOf "" orPending parts =
      links.foldl (fun text link => text ++ link.1.operator ++ textOf link.2) (textOf first) := by
  induction parts generalizing orPending with
  | nil => cases filled
  | cons part parts ih =>
    cases part with
    | or => exact ih filled true
    | fragment content =>
      obtain ⟨_, rfl⟩ := List.cons.inj filled
      have start : "" ++ "" ++ textOf content = textOf content := by simp
      rw [joinOnto, if_pos rfl, start, joinOnto_behind parts (texts content) false]
      cases filled
      rfl

end

theorem script_ne_empty (fragment : Fragment) : fragment.script ≠ "" := by
  unfold Fragment.script
  intro none
  obtain ⟨_, closing⟩ := String.append_eq_empty_iff.mp none
  exact absurd closing (by decide)

theorem joinOnto_eq_empty_iff {textOf : Fragment → String} (texts : ∀ fragment, textOf fragment ≠ "") (soFar : String)
    (orPending : Bool) (parts : List Part) :
    joinOnto textOf soFar orPending parts = "" ↔ soFar = "" ∧ parts.any isFragment = false := by
  induction parts generalizing soFar orPending with
  | nil => simp [joinOnto]
  | cons part more ih =>
    cases part with
    | or => exact ih soFar true
    | fragment content =>
      rw [joinOnto, ih]
      simp [texts content, isFragment]

/-- A wait compiles to no text exactly when no clause was added. -/
theorem compile_eq_empty_iff {wait : ScriptWait} (sound : wait.deferred = none) :
    wait.compile = .ok "" ↔ wait.isEmpty = true := by
  have blank (text : String) : onOneLine text = "" ↔ text = "" := by
    rw [← String.toList_inj, ← String.toList_inj, onOneLine, String.toList_map]
    exact List.map_eq_nil_iff
  have joined := joinOnto_eq_empty_iff script_ne_empty "" false wait.parts
  rw [compile, sound, isEmpty, Bool.not_eq_true']
  dsimp only
  rw [Except.ok.injEq, blank, joined]
  exact and_iff_right rfl

theorem onOneLine_append (left right : String) : onOneLine (left ++ right) = onOneLine left ++ onOneLine right := by
  rw [← String.toList_inj]
  simp [onOneLine, String.toList_map]

theorem onOneLine_operator (joiner : Joiner) : onOneLine joiner.operator = joiner.operator := by
  rw [← String.toList_inj, onOneLine, String.toList_map]
  cases joiner <;> rfl

theorem onOneLine_foldl (links : Chain Fragment) (text : String) :
    onOneLine (links.foldl (fun text link => text ++ link.1.operator ++ link.2.script) text) =
      (links.map fun link => (link.1, onOneLine link.2.script)).foldl
        (fun text link => text ++ link.1.operator ++ link.2) (onOneLine text) := by
  induction links generalizing text with
  | nil => rfl
  | cons link links ih =>
    rw [List.foldl_cons, ih, onOneLine_append, onOneLine_append, onOneLine_operator]
    rfl

/-- The condition of a wait is the text of its atoms with the joiners of its chain. -/
theorem compile_spelled {wait : ScriptWait} (sound : wait.deferred = none) (some : wait.chain ≠ []) :
    ∃ text, wait.compile = .ok text ∧ Script.Spelled wait.atoms wait.chain.joiners text ∧
      wait.chain.joiners.length + 1 = wait.atoms.length := by
  cases filled : wait.chain with
  | nil => exact absurd filled some
  | cons link links =>
    obtain ⟨joiner, first⟩ := link
    have atoms : wait.atoms = [onOneLine first.script] ++
        (links.map fun link => (link.1, onOneLine link.2.script)).map Prod.snd := by
      rw [ScriptWait.atoms, filled, List.map_map]
      rfl
    have start : Script.Spelled wait.atoms [] (onOneLine first.script) := .first (by rw [atoms]; rfl)
    have whole := start.foldl rfl (links.map fun link => (link.1, onOneLine link.2.script)) atoms
    rw [List.nil_append, List.map_map] at whole
    refine ⟨onOneLine (joinOnto Fragment.script "" false wait.parts), by rw [compile, sound], ?_, ?_⟩
    · rw [joinOnto_of_chain script_ne_empty filled false, onOneLine_foldl]
      exact whole
    · rw [atoms]
      simp [Chain.joiners]

end ScriptWait

/-! ## Both builders -/

section

variable (σ : Type) (flavor : AjaxFlavor) (options : PollOptions) (diagnostics : Diagnostics)

theorem native_applyAll (directives : List Directive) :
    (WaitBuilder.applyAll ({ flavor, options } : NativeWait σ) directives).root =
        .ofChain (Chain.ofSteps (directives.map (NativeWait.clause? flavor))) ∧
      (WaitBuilder.applyAll ({ flavor, options } : NativeWait σ) directives).deferred = none := by
  let calls : List (NativeCall σ) := directives.map NativeCall.directive
  have built : WaitBuilder.applyAll ({ flavor, options } : NativeWait σ) directives =
      NativeWait.ofCalls flavor options calls := by
    rw [NativeWait.ofCalls, List.foldl_map]
    rfl
  obtain ⟨root, deferred⟩ := NativeWait.ofCalls_eq flavor options calls
  rw [List.map_map] at root
  rw [built]
  exact ⟨root, deferred⟩

/-- The clauses of the native builder stand for the directives that are no OR. -/
theorem native_chain (directives : List Directive) :
    (Chain.ofSteps (directives.map (NativeWait.clause? flavor : Directive → Option (Clause σ)))).map
        (fun link => (link.1, some link.2)) =
      (Chain.ofSteps (directives.map Directive.atom?)).map
        fun link => (link.1, NativeWait.clause? flavor link.2) := by
  apply Chain.ofSteps_congr
  intro directive _
  cases directive <;> rfl

/-- The fragments of the script builder stand for the same directives. -/
theorem script_chain {directives : List Directive}
    (accepted : ∀ directive ∈ directives, directive.comparison? = none) :
    (Chain.ofSteps (directives.map (ScriptWait.fragment? diagnostics flavor))).map (fun link => (link.1, some link.2)) =
      (Chain.ofSteps (directives.map Directive.atom?)).map
        fun link => (link.1, ScriptWait.fragment? diagnostics flavor link.2) := by
  apply Chain.ofSteps_congr
  intro directive member
  have plain := accepted directive member
  cases directive with
  | evaluateElement finder property reference comparison =>
    cases plain
    rfl
  | _ => rfl

end

end BrowserWait
