import BrowserWait.Proofs.Wait.Literals
import Mathlib.Data.List.Forall2

/-!
# Logs in compiled waits

A wait whose scripts log to the console differs from the same wait without logs by one statement in every fragment: in
front of the last `return` the variable that is returned there is logged, behind a literal that no text of the caller's
closes early. `console_only_logs` says so for the waits that any directives build, and for what these compile to.
-/

namespace BrowserWait

/-! ## One statement more -/

namespace Script

/-- The name of a variable: one letter or more. -/
def IsName (var : String) : Prop := var ≠ "" ∧ var.toList.all Char.isAlpha = true

instance (var : String) : Decidable (IsName var) := inferInstanceAs (Decidable (_ ∧ _))

theorem IsName.onOneLine_eq {var : String} (named : IsName var) : ScriptWait.onOneLine var = var := by
  refine ScriptWait.onOneLine_eq_self_iff.mpr fun member => ?_
  exact absurd (List.all_eq_true.mp named.2 _ member) (by decide)

/-- The end of a fragment's script: a variable is returned, as it is or compared with a truth value. -/
def returning (var comparison : String) : String := "return " ++ var ++ comparison ++ "; \x7d)()"

/-- The second script is the first with one statement more, which logs the variable of the last `return` immediately in
front of it, behind a literal that is closed where the statement means it to be. -/
inductive Logs : (quiet logged : String) → Prop where
  | statement {front body var comparison : String} {text : List Char} (named : IsName var)
    (compared : comparison ∈ ["", " == true", " == false"]) (denotes : Text.unquoted? body.toList = some text) :
    Logs (front ++ returning var comparison)
      (front ++ ("LOG.info('" ++ body ++ "' + " ++ var ++ "); ") ++ returning var comparison)

end Script

/-- The second part is the first with its result logged: both are ORs, or fragments with one label. -/
inductive Part.Logs : (quiet logged : Part) → Prop where
  | or : Logs .or .or
  | fragment {quiet logged : Fragment} (label : logged.label = quiet.label)
    (script : Script.Logs quiet.script logged.script) : Logs (.fragment quiet) (.fragment logged)

namespace Text

theorem unquoted?_cons {c : Char} (ordinary : c ≠ '\\') (body : List Char) :
    unquoted? (c :: body) = if c = '\'' then none else (unquoted? body).map (c :: ·) := by
  rw [unquoted?]
  · exact fun same => absurd same ordinary
  · exact fun _ _ same => absurd same ordinary

theorem unquoted?_map {f : Char → Char} (escapes : ∀ c, f c = '\\' ↔ c = '\\') (marks : ∀ c, f c = '\'' ↔ c = '\'')
    (body : List Char) : unquoted? (body.map f) = (unquoted? body).map (List.map f) := by
  have escape : f '\\' = '\\' := (escapes _).mpr rfl
  fun_induction unquoted? body with
  | case1 => rfl
  | case2 => simp [escape, unquoted?]
  | case3 c body ih =>
    rw [List.map_cons, List.map_cons, escape, unquoted?, ih]
    simp [Function.comp_def]
  | case4 body lone escaped =>
    rw [List.map_cons, (marks _).mpr rfl, unquoted?_cons (by decide), if_pos rfl]
    rfl
  | case5 c body lone escaped ordinary ih =>
    have noEscape := mt (escapes c).mp (ne_escape lone escaped)
    rw [List.map_cons, unquoted?_cons noEscape, if_neg (mt (marks c).mp ordinary), ih]
    simp [Function.comp_def]

end Text

/-! ## Fragments and their logs -/

theorem Fragment.script_eq (fragment : Fragment) :
    fragment.script =
      "(function() \x7b " ++ fragment.setup ++ fragment.log ++ ("return " ++ fragment.result ++ "; \x7d)()") := by
  unfold script
  simp only [String.append_assoc]

namespace ScriptWait

theorem onOneLine_returning {var comparison : String} (named : Script.IsName var)
    (compared : comparison ∈ ["", " == true", " == false"]) :
    onOneLine (Script.returning var comparison) = Script.returning var comparison := by
  have line := onOneLine_eq_self_iff.mp named.onOneLine_eq
  rw [onOneLine_eq_self_iff, Script.returning]
  simp only [List.mem_cons, List.not_mem_nil, or_false] at compared
  rcases compared with rfl | rfl | rfl <;> simp [String.toList_append, line]

theorem logs_onOneLine {quiet logged : String} (logs : Script.Logs quiet logged) :
    Script.Logs (onOneLine quiet) (onOneLine logged) := by
  cases logs with
  | @statement front body var comparison text named compared denotes =>
    have opening : onOneLine "LOG.info('" = "LOG.info('" := onOneLine_eq_self_iff.mpr (by decide)
    have link : onOneLine "' + " = "' + " := onOneLine_eq_self_iff.mpr (by decide)
    have close : onOneLine "); " = "); " := onOneLine_eq_self_iff.mpr (by decide)
    simp only [onOneLine_append, onOneLine_returning named compared, opening, link, close, named.onOneLine_eq]
    have escapes : ∀ c, (if c = '\n' then ' ' else c) = '\\' ↔ c = '\\' := by
      intro c
      by_cases feed : c = '\n' <;> simp [feed]
    have marks : ∀ c, (if c = '\n' then ' ' else c) = '\'' ↔ c = '\'' := by
      intro c
      by_cases feed : c = '\n' <;> simp [feed]
    have spaced := Text.unquoted?_map escapes marks body.toList
    rw [← toList_onOneLine, denotes] at spaced
    exact .statement named compared spaced

theorem logs_returning (front name : String) (arguments : List String) {var comparison : String}
    (named : Script.IsName var) (compared : comparison ∈ ["", " == true", " == false"]) :
    Script.Logs (front ++ Script.returning var comparison)
      (front ++ Fragment.logging name arguments var ++ Script.returning var comparison) := by
  have body := Text.unquoted?_quoted ("wait_for " ++ name ++ "(" ++ ", ".intercalate arguments ++ ")=").toList
  rw [← toList_quote] at body
  have logs := @Script.Logs.statement front _ var comparison _ named compared body
  have lead : "LOG.info('" = "LOG.info(" ++ "'" := rfl
  have link : "' + " = "'" ++ " + " := rfl
  rewrite [lead, link] at logs
  rewrite [Fragment.logging_eq]
  simp only [String.append_assoc] at logs ⊢
  exact logs

-- the quotes of a test are escaped in the log, and those in its reference a second time
example :
    Fragment.logging "evaluate_element" ["css=#a", attributeTest "value" "it's"] "result" =
      "LOG.info('wait_for evaluate_element(css=#a, element.value == \\'it\\\\\\'s\\')=' + result); " := rfl

/-- Fragments that differ in their log only, which is that of the variable they return. -/
theorem logs_fragment {bare full : Fragment} {name var comparison : String} {arguments : List String}
    (setup : full.setup = bare.setup) (label : full.label = bare.label) (same : full.result = bare.result)
    (result : bare.result = var ++ comparison) (silent : bare.log = "")
    (loud : full.log = Fragment.logging name arguments var) (named : Script.IsName var)
    (compared : comparison ∈ ["", " == true", " == false"]) : Part.Logs (.fragment bare) (.fragment full) := by
  have end_eq : "return " ++ (var ++ comparison) ++ "; \x7d)()" = Script.returning var comparison := by
    simp only [Script.returning, String.append_assoc]
  have logs := logs_returning ("(function() \x7b " ++ bare.setup) name arguments named compared
  refine .fragment label ?_
  rw [Fragment.script_eq, Fragment.script_eq, setup, same, result, silent, loud, end_eq, String.append_empty]
  exact logs

section

variable {quiet logged : Diagnostics}

theorem log_of_silent (silent : quiet.scriptConsole = false) (name : String) (arguments : List String) (var : String) :
    log quiet name arguments var = "" := by
  simp [log, silent]

theorem log_of_loud (loud : logged.scriptConsole = true) (name : String) (arguments : List String) (var : String) :
    log logged name arguments var = Fragment.logging name arguments var := by
  simp [log, loud]

variable (silent : quiet.scriptConsole = false) (loud : logged.scriptConsole = true)
include silent loud

theorem logs_presence (name : String) (finder : Finder) (wanted : Bool) :
    Part.Logs (.fragment (presence quiet name finder wanted)) (.fragment (presence logged name finder wanted)) := by
  have result : (presence quiet name finder wanted).result = "found" ++ (" == " ++ Fragment.literal wanted) := by
    cases wanted <;> rfl
  exact logs_fragment rfl rfl rfl result (log_of_silent silent _ _ _) (log_of_loud loud _ _ _) (by decide)
    (by cases wanted <;> decide)

theorem logs_visibility (name : String) (finder : Finder) (wanted : Bool) :
    Part.Logs (.fragment (visibility quiet name finder wanted)) (.fragment (visibility logged name finder wanted)) := by
  have result : (visibility quiet name finder wanted).result = "visible" ++ (" == " ++ Fragment.literal wanted) := by
    cases wanted <;> rfl
  exact logs_fragment rfl rfl rfl result (log_of_silent silent _ _ _) (log_of_loud loud _ _ _) (by decide)
    (by cases wanted <;> decide)

theorem logs_evaluation (finder : Finder) (property reference : String) :
    Part.Logs (.fragment (evaluation quiet finder property reference))
      (.fragment (evaluation logged finder property reference)) := by
  have result : (evaluation quiet finder property reference).result = "result" ++ "" := rfl
  exact logs_fragment rfl rfl rfl result (log_of_silent silent _ _ _) (log_of_loud loud _ _ _) (by decide) (by decide)

theorem logs_value (name expression : String) {var : String} (named : Script.IsName var) :
    Part.Logs (.fragment (value quiet name var expression)) (.fragment (value logged name var expression)) := by
  have result : (value quiet name var expression).result = var ++ "" := String.append_empty.symm
  exact logs_fragment rfl rfl rfl result (log_of_silent silent _ _ _) (log_of_loud loud _ _ _) named (by decide)

/-- A directive is refused with and without logs, or adds parts of which one is the other with a log. -/
theorem part_logs (flavor : AjaxFlavor) (directive : Directive) :
    (∃ failure, part quiet flavor directive = .error failure ∧ part logged flavor directive = .error failure) ∨
      ∃ added other, part quiet flavor directive = .ok added ∧ part logged flavor directive = .ok other ∧
        Part.Logs added other := by
  cases directive with
  | elementPresent finder => exact .inr ⟨_, _, rfl, rfl, logs_presence silent loud _ finder true⟩
  | elementNotPresent finder => exact .inr ⟨_, _, rfl, rfl, logs_presence silent loud _ finder false⟩
  | elementVisible finder => exact .inr ⟨_, _, rfl, rfl, logs_visibility silent loud _ finder true⟩
  | elementNotVisible finder => exact .inr ⟨_, _, rfl, rfl, logs_visibility silent loud _ finder false⟩
  | evaluateElement finder property reference comparison =>
    cases comparison with
    | none => exact .inr ⟨_, _, rfl, rfl, logs_evaluation silent loud finder property reference⟩
    | some comparison => exact .inl ⟨_, rfl, rfl⟩
  | ajaxPending => exact .inr ⟨_, _, rfl, rfl, logs_value silent loud _ _ (by decide)⟩
  | ajaxComplete => exact .inr ⟨_, _, rfl, rfl, logs_value silent loud _ _ (by decide)⟩
  | pageLoading => exact .inr ⟨_, _, rfl, rfl, logs_value silent loud _ _ (by decide)⟩
  | pageReady => exact .inr ⟨_, _, rfl, rfl, logs_value silent loud _ _ (by decide)⟩
  | or => exact .inr ⟨_, _, rfl, rfl, .or⟩

end

/-! ## Building with and without logs -/

theorem addPart_logs {parts others : List Part} (same : List.Forall₂ Part.Logs parts others) {part other : Part}
    (logs : Part.Logs part other) : List.Forall₂ Part.Logs (addPart parts part) (addPart others other) := by
  cases logs with
  | fragment label script => exact List.rel_append same (.cons (.fragment label script) .nil)
  | or =>
    -- the last parts decide whether the OR is kept
    have turned := List.forall₂_reverse_iff.mpr same
    simp only [addPart, List.getLast?_eq_head?_reverse]
    generalize parts.reverse = front at turned
    generalize others.reverse = otherFront at turned
    cases turned with
    | nil => exact same
    | cons last before =>
      cases last with
      | or => exact same
      | fragment label script => exact List.rel_append same (.cons .or .nil)

/-- The second wait is the first with logs. -/
structure Shadows (quiet logged : ScriptWait) : Prop where
  flavor : logged.flavor = quiet.flavor
  silent : quiet.diagnostics.scriptConsole = false
  loud : logged.diagnostics.scriptConsole = true
  deferred : logged.deferred = quiet.deferred
  parts : List.Forall₂ Part.Logs quiet.parts logged.parts

theorem Shadows.apply {quiet logged : ScriptWait} (shadows : Shadows quiet logged) (directive : Directive) :
    Shadows (quiet.apply directive) (logged.apply directive) := by
  obtain ⟨flavor, silent, loud, deferred, parts⟩ := shadows
  rcases part_logs silent loud quiet.flavor directive with ⟨failure, left, right⟩ | ⟨added, other, left, right, logs⟩
  · have refused : quiet.apply directive = quiet.fail failure := by rw [ScriptWait.apply, left]
    have alike : logged.apply directive = logged.fail failure := by rw [ScriptWait.apply, flavor, right]
    rw [refused, alike]
    exact ⟨flavor, silent, loud, by rw [fail, fail, deferred], parts⟩
  · have accepted : quiet.apply directive = { quiet with parts := addPart quiet.parts added } := by
      rw [ScriptWait.apply, left]
    have alike : logged.apply directive = { logged with parts := addPart logged.parts other } := by
      unfold ScriptWait.apply
      rw [flavor, right]
    rw [accepted, alike]
    exact ⟨flavor, silent, loud, deferred, addPart_logs parts logs⟩

theorem Shadows.applyAll {quiet logged : ScriptWait} (shadows : Shadows quiet logged) (directives : List Directive) :
    Shadows (WaitBuilder.applyAll quiet directives) (WaitBuilder.applyAll logged directives) := by
  induction directives generalizing quiet logged with
  | nil => exact shadows
  | cons directive directives ih => exact ih (shadows.apply directive)

theorem joinOnto_label {parts others : List Part} (same : List.Forall₂ Part.Logs parts others) (soFar : String)
    (orPending : Bool) :
    joinOnto Fragment.label soFar orPending others = joinOnto Fragment.label soFar orPending parts := by
  induction same generalizing soFar orPending with
  | nil => rfl
  | cons logs _ ih =>
    cases logs with
    | or => exact ih soFar true
    | fragment label script =>
      rw [joinOnto, joinOnto, label]
      exact ih _ false

theorem Shadows.describe {quiet logged : ScriptWait} (shadows : Shadows quiet logged) :
    logged.describe = quiet.describe :=
  joinOnto_label shadows.parts "" false

/-! ## Compiling with and without logs -/

theorem Shadows.chain {quiet logged : ScriptWait} (shadows : Shadows quiet logged) :
    List.Forall₂ (fun link other => link.1 = other.1 ∧ Script.Logs link.2.script other.2.script) quiet.chain
      logged.chain := by
  have steps : List.Forall₂ (Option.Rel fun fragment other : Fragment => Script.Logs fragment.script other.script)
      (quiet.parts.map Part.fragment?) (logged.parts.map Part.fragment?) := by
    rw [List.forall₂_map_left_iff, List.forall₂_map_right_iff]
    refine shadows.parts.imp fun part other logs => ?_
    cases logs with
    | or => exact .none
    | fragment label script => exact .some script
  exact Chain.ofSteps_related steps

theorem Shadows.chain_eq_nil_iff {quiet logged : ScriptWait} (shadows : Shadows quiet logged) :
    logged.chain = [] ↔ quiet.chain = [] := by
  rw [← List.length_eq_zero_iff, ← List.length_eq_zero_iff, shadows.chain.length_eq]

theorem Shadows.joiners {quiet logged : ScriptWait} (shadows : Shadows quiet logged) :
    quiet.chain.joiners = logged.chain.joiners := by
  have fronts : quiet.chain.map Prod.fst = logged.chain.map Prod.fst := by
    rw [← List.forall₂_eq_eq_eq, List.forall₂_map_left_iff, List.forall₂_map_right_iff]
    exact shadows.chain.imp fun _ _ related => related.1
  rw [Chain.joiners, Chain.joiners, fronts]

theorem Shadows.atoms {quiet logged : ScriptWait} (shadows : Shadows quiet logged) :
    List.Forall₂ Script.Logs quiet.atoms logged.atoms := by
  rw [ScriptWait.atoms, ScriptWait.atoms, List.forall₂_map_left_iff, List.forall₂_map_right_iff]
  exact shadows.chain.imp fun _ _ related => logs_onOneLine related.2

/-- What two waits compile to when they differ in their logs only. -/
inductive CompileAlike (quiet logged : ScriptWait) : Prop where
  | refused {failure : Failure} (left : quiet.compile = .error failure) (right : logged.compile = .error failure)
  | empty (left : quiet.compile = .ok "") (right : logged.compile = .ok "")
  | joined {joiners : List Joiner} {text other : String} (length : joiners.length + 1 = quiet.atoms.length)
    (left : quiet.compile = .ok text) (spelled : Script.Spelled quiet.atoms joiners text)
    (right : logged.compile = .ok other) (alike : Script.Spelled logged.atoms joiners other)
    (logs : List.Forall₂ Script.Logs quiet.atoms logged.atoms)

theorem compile_of_chain_nil {wait : ScriptWait} (sound : wait.deferred = none) (none : wait.chain = []) :
    wait.compile = .ok "" := by
  rw [compile_eq_empty_iff sound, isEmpty, Bool.not_eq_true', List.any_eq_false]
  intro part member clause
  cases part with
  | or => cases clause
  | fragment fragment =>
    have step : some fragment ∈ wait.parts.map Part.fragment? := List.mem_map_of_mem member
    exact Chain.ofSteps_ne_nil step none

theorem Shadows.compile {quiet logged : ScriptWait} (shadows : Shadows quiet logged) : CompileAlike quiet logged := by
  cases kept : quiet.deferred with
  | some failure =>
    have alike : logged.deferred = some failure := shadows.deferred.trans kept
    exact .refused (by rw [ScriptWait.compile, kept]) (by rw [ScriptWait.compile, alike])
  | none =>
    have sound : logged.deferred = none := shadows.deferred.trans kept
    by_cases filled : quiet.chain = []
    · have alike : logged.chain = [] := shadows.chain_eq_nil_iff.mpr filled
      exact .empty (compile_of_chain_nil kept filled) (compile_of_chain_nil sound alike)
    · obtain ⟨text, left, spelled, length⟩ := compile_spelled kept filled
      obtain ⟨other, right, alike, _⟩ := compile_spelled sound (mt shadows.chain_eq_nil_iff.mp filled)
      rw [← shadows.joiners] at alike
      exact .joined length left spelled right alike shadows.atoms

/-- The same directives build alike with and without logs: the same failure is kept, the same description, and the same
parts but for one statement in each fragment; and this is how the two compile. -/
theorem console_only_logs (flavor : AjaxFlavor) (diagnostics : Diagnostics) (directives : List Directive) :
    let built (console : Bool) : ScriptWait :=
      WaitBuilder.applyAll { flavor, diagnostics := { diagnostics with scriptConsole := console } } directives
    (built true).deferred = (built false).deferred ∧ (built true).describe = (built false).describe ∧
      List.Forall₂ Part.Logs (built false).parts (built true).parts ∧ CompileAlike (built false) (built true) := by
  intro built
  have fresh : Shadows { flavor, diagnostics := { diagnostics with scriptConsole := false } }
      { flavor, diagnostics := { diagnostics with scriptConsole := true } } := ⟨rfl, rfl, rfl, rfl, .nil⟩
  have shadows : Shadows (built false) (built true) := fresh.applyAll directives
  exact ⟨shadows.deferred, shadows.describe, shadows.parts, shadows.compile⟩

end ScriptWait

end BrowserWait
