import BrowserWait.Page.Model
import BrowserWait.Wait.Clause
import Mathlib.Data.List.Basic

/-!
# The values of scripts on a page model

A page model answers some expressions by itself, from its sentinel and the requests in flight, and any other expression
by the result that is registered for it. A clause sends its expression wrapped, and gets the answer to exactly the
expression it was made of (`script_answered`), also where that looks like a wrapped one, or like the statement that
marks a page.
-/

namespace BrowserWait

/-! ## Telling scripts apart -/

namespace AjaxFlavor

theorem complete_inj {flavor other : AjaxFlavor} : flavor.complete = other.complete ↔ flavor = other := by
  cases flavor <;> cases other <;> decide

theorem pending_inj {flavor other : AjaxFlavor} : flavor.pending = other.pending ↔ flavor = other := by
  cases flavor <;> cases other <;> decide

theorem complete_ne_pending (flavor other : AjaxFlavor) : flavor.complete ≠ other.pending := by
  cases flavor <;> cases other <;> decide

/-- No counter is asked for by an expression over the sentinel. -/
theorem not_over_sentinel (flavor : AjaxFlavor) {expression : String}
    (counter : expression = flavor.complete ∨ expression = flavor.pending) :
    expression ≠ PageScript.loading ∧ expression ≠ PageScript.ready := by
  rcases counter with rfl | rfl <;> cases flavor <;> decide

end AjaxFlavor

/-- No wrapped expression is the statement that marks a page: it begins in another way. -/
theorem PageScript.returning_ne_mark (expression : String) : returning expression ≠ mark := by
  intro same
  have first := congrArg (fun script => script.toList.head?) same
  simp [returning, wrapFront, mark, String.toList_append] at first

namespace PageModel

/-! ## What a page says -/

/-- An expression that speaks of the page itself: over the sentinel, or over the counter of a library. -/
def Reserved (expression : String) : Prop :=
  expression = PageScript.loading ∨ expression = PageScript.ready ∨
    ∃ flavor : AjaxFlavor, expression = flavor.complete ∨ expression = flavor.pending

/-- The requests in flight that a flavor's library tells of; only jQuery may be on the page. -/
def requests (page : PageModel) : AjaxFlavor → Nat
  | .jQuery => page.ajaxActive.getD 0
  | .prototype | .dojo => 0

/-- The truth of an expression on a page. -/
inductive Answers (page : PageModel) (expression : String) : (value : Bool) → Prop where
  | loading (asked : expression = PageScript.loading) : Answers page expression page.marked
  | ready (asked : expression = PageScript.ready) : Answers page expression !page.marked
  | idle {flavor : AjaxFlavor} (asked : expression = flavor.complete) :
    Answers page expression (page.requests flavor == 0)
  | busy {flavor : AjaxFlavor} (asked : expression = flavor.pending) :
    Answers page expression (page.requests flavor != 0)
  | registered {result : Json} {value : Bool} (free : ¬ Reserved expression)
    (there : page.scriptResults.get? expression = some result) (truth : value = true ↔ ¬ result.Falsy) :
    Answers page expression value
  | unregistered (free : ¬ Reserved expression) (absent : page.scriptResults.get? expression = none) :
    Answers page expression false

section

variable {page : PageModel} {expression : String} {value : Bool}

theorem activeFor_eq (page : PageModel) (flavor : AjaxFlavor) :
    (page.activeFor flavor).all (· == 0) = (page.requests flavor == 0) ∧
      (page.activeFor flavor).any (· != 0) = (page.requests flavor != 0) := by
  cases flavor with
  | jQuery =>
    rw [activeFor, requests]
    cases page.ajaxActive <;> exact ⟨rfl, rfl⟩
  | prototype => exact ⟨rfl, rfl⟩
  | dojo => exact ⟨rfl, rfl⟩

theorem ajaxValue?_eq_some_iff {flavor : AjaxFlavor} :
    page.ajaxValue? expression flavor = some value ↔
      expression = flavor.complete ∧ (page.requests flavor == 0) = value ∨
        expression = flavor.pending ∧ (page.requests flavor != 0) = value := by
  obtain ⟨idle, busy⟩ := page.activeFor_eq flavor
  rw [ajaxValue?, idle, busy]
  by_cases complete : expression = flavor.complete
  · simp [complete, flavor.complete_ne_pending flavor]
  · by_cases pending : expression = flavor.pending
    · simp [pending, (flavor.complete_ne_pending flavor).symm]
    · simp [complete, pending]

/-- The flavor whose expression is asked for answers, wherever it stands among the flavors. -/
theorem findSome?_ajaxValue?_eq_some_iff :
    AjaxFlavor.all.findSome? (page.ajaxValue? expression) = some value ↔
      ∃ flavor : AjaxFlavor,
        expression = flavor.complete ∧ (page.requests flavor == 0) = value ∨
          expression = flavor.pending ∧ (page.requests flavor != 0) = value := by
  have found {answer : Bool} (first : AjaxFlavor.all.findSome? (page.ajaxValue? expression) = some answer) :
      ∃ flavor, page.ajaxValue? expression flavor = some answer := by
    obtain ⟨flavor, _, answers⟩ := List.exists_of_findSome?_eq_some first
    exact ⟨flavor, answers⟩
  simp only [← ajaxValue?_eq_some_iff]
  refine ⟨found, ?_⟩
  rintro ⟨flavor, answers⟩
  cases first : AjaxFlavor.all.findSome? (page.ajaxValue? expression) with
  | none =>
    have listed : flavor ∈ AjaxFlavor.all := by cases flavor <;> decide
    rw [List.findSome?_eq_none_iff.mp first flavor listed] at answers
    cases answers
  | some answer =>
    -- another flavor may come first, but no two of them have an expression in common
    obtain ⟨other, also⟩ := found first
    have same : other = flavor := by
      rcases ajaxValue?_eq_some_iff.mp answers with ⟨here, _⟩ | ⟨here, _⟩
      · rcases ajaxValue?_eq_some_iff.mp also with ⟨there, _⟩ | ⟨there, _⟩
        · exact AjaxFlavor.complete_inj.mp (there.symm.trans here)
        · exact absurd (here.symm.trans there) (AjaxFlavor.complete_ne_pending _ _)
      · rcases ajaxValue?_eq_some_iff.mp also with ⟨there, _⟩ | ⟨there, _⟩
        · exact absurd (there.symm.trans here) (AjaxFlavor.complete_ne_pending _ _)
        · exact AjaxFlavor.pending_inj.mp (there.symm.trans here)
    rw [← answers, ← also, same]

theorem expressionValue_of_free (free : ¬ Reserved expression) :
    page.expressionValue expression = (page.scriptResults.get? expression).getD .null := by
  obtain ⟨notLoading, others⟩ := not_or.mp free
  obtain ⟨notReady, noCounter⟩ := not_or.mp others
  have silent : AjaxFlavor.all.findSome? (page.ajaxValue? expression) = none := by
    rw [Option.eq_none_iff_forall_ne_some]
    intro value answers
    obtain ⟨flavor, ⟨asked, _⟩ | ⟨asked, _⟩⟩ := findSome?_ajaxValue?_eq_some_iff.mp answers
    · exact noCounter ⟨flavor, .inl asked⟩
    · exact noCounter ⟨flavor, .inr asked⟩
  rw [expressionValue, if_neg notLoading, if_neg notReady, silent]

theorem expressionValue_of_counter {flavor : AjaxFlavor}
    (asked : expression = flavor.complete ∧ (page.requests flavor == 0) = value ∨
      expression = flavor.pending ∧ (page.requests flavor != 0) = value) :
    page.expressionValue expression = .bool value := by
  obtain ⟨notLoading, notReady⟩ := flavor.not_over_sentinel (asked.imp And.left And.left)
  rw [expressionValue, if_neg notLoading, if_neg notReady, findSome?_ajaxValue?_eq_some_iff.mpr ⟨flavor, asked⟩]

theorem Answers.value_eq (answers : page.Answers expression value) :
    (page.expressionValue expression).isTruthy = value := by
  cases answers with
  | loading asked =>
    rw [expressionValue, if_pos asked]
    rfl
  | ready asked =>
    rw [expressionValue, if_neg (asked ▸ by decide), if_pos asked]
    rfl
  | idle asked =>
    rw [expressionValue_of_counter (.inl ⟨asked, rfl⟩)]
    rfl
  | busy asked =>
    rw [expressionValue_of_counter (.inr ⟨asked, rfl⟩)]
    rfl
  | registered free there truth =>
    rw [expressionValue_of_free free, there, Option.getD_some]
    exact Bool.eq_iff_iff.mpr (Json.isTruthy_iff.trans truth.symm)
  | unregistered free absent =>
    rw [expressionValue_of_free free, absent]
    rfl

/-- A page has an answer to every expression. -/
theorem exists_answer (page : PageModel) (expression : String) : ∃ value, page.Answers expression value := by
  by_cases reserved : Reserved expression
  · obtain asked | asked | ⟨flavor, asked | asked⟩ := reserved
    · exact ⟨_, .loading asked⟩
    · exact ⟨_, .ready asked⟩
    · exact ⟨_, .idle asked⟩
    · exact ⟨_, .busy asked⟩
  · cases there : page.scriptResults.get? expression with
    | some result => exact ⟨result.isTruthy, .registered reserved there Json.isTruthy_iff⟩
    | none => exact ⟨_, .unregistered reserved there⟩

/-- The order in which a page goes through the expressions makes no difference to its answer. -/
theorem answers_iff : page.Answers expression value ↔ (page.expressionValue expression).isTruthy = value := by
  refine ⟨Answers.value_eq, ?_⟩
  rintro rfl
  obtain ⟨value, answers⟩ := page.exists_answer expression
  rwa [answers.value_eq]

end

/-! ## What a clause gets -/

theorem perform_truthy (page : PageModel) (expression : String) :
    (Clause.truthy expression : Action PageModel Bool).perform page =
      (.ok (page.expressionValue expression).isTruthy,
        { page with
          calls := page.calls ++ ["evaluate_script:" ++ PageScript.returning expression]
          scripts := page.scripts ++ [PageScript.returning expression] }) := by
  have evaluated : (Browser.evaluateScript (PageScript.returning expression)).perform page =
      evaluateScript (PageScript.returning expression) page := rfl
  rw [Clause.truthy, Action.perform_bind, evaluated, evaluateScript, if_neg (PageScript.returning_ne_mark expression),
    unwrapped_returning]
  rfl

end PageModel

namespace Clause

/-- Whatever its expression, a script clause succeeds on a page. It sends the expression wrapped, as one call more and
one script more, and changes nothing else, the mark of the page neither. Its value is the page's answer to exactly this
expression: of the sentinel, of a library's counter, or of the registered result. -/
theorem script_answered (page : PageModel) (expression : String) :
    ∃ value, (script expression : Clause PageModel).evaluate.perform page =
        (.ok value,
          { page with
            calls := page.calls ++ ["evaluate_script:" ++ PageScript.returning expression]
            scripts := page.scripts ++ [PageScript.returning expression] }) ∧
      ∀ other, page.Answers expression other ↔ other = value := by
  refine ⟨_, page.perform_truthy expression, fun other => ?_⟩
  rw [PageModel.answers_iff, eq_comm]

end Clause

end BrowserWait
