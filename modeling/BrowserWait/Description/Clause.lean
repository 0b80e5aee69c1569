import BrowserWait.Description.Failure
import BrowserWait.Wait.Poll
import BrowserWait.Wait.Clause

/-!
# Described clauses

Clauses and what they are made of: locators and finders, named comparisons, and checks whose outcome is given or found
in the markup of the page.
-/

namespace BrowserWait

namespace Comparison

/-- The value has to be another text than the reference. -/
def difference : Comparison := ⟨"ne", (· != ·)⟩

/-- The value has to contain the reference. -/
def containment : Comparison := ⟨"contains", fun value part => Text.contains part.toList value.toList⟩

/-- The value has to begin with the reference. -/
def beginning : Comparison := ⟨"starts_with", fun value front => (Text.after? front.toList value.toList).isSome⟩

/-- The value has to come after the reference in the order of code points. -/
def excess : Comparison := ⟨"gt", fun value reference => decide (reference < value)⟩

/-- No value will do. -/
def refusal : Comparison := ⟨"never", fun _ _ => false⟩

end Comparison

namespace Description

instance : Described AjaxFlavor := ⟨fun value => value.text?.bind AjaxFlavor.ofName?⟩

instance : Described Diagnostics := ⟨Diagnostics.ofNode?⟩

instance : Described ElementId := ⟨fun value => value.text?.map ElementId.mk⟩

instance : Described Locator where
  read?
    | .string text => some (.ofText text)
    | value => Locator.ofNode? value

instance : Described Finder where
  read?
    | .string text => some (.selector text)
    | value => Finder.element <$> read? value

instance : Described Comparison where
  read?
    | .string "default" => some .equality
    | .string name =>
      [.equality, .difference, .containment, .beginning, .excess, .refusal].find? fun (comparison : Comparison) =>
        comparison.name == name
    | _ => none

/-- The flavor a record asks for. -/
def flavor (record : Json) : Option AjaxFlavor := field record "flavor"

/-- The diagnostics a record asks for. -/
def diagnostics (record : Json) : Option Diagnostics := field record "diagnostics"

/-- The locator a record asks for. -/
def locator (record : Json) : Option Locator := fieldOr (.ofText "") record "locator"

/-- The finder a record asks for. -/
def finder (record : Json) : Option Finder := fieldOr (.selector "") record "finder"

/-- How a record asks a wait to poll. -/
def pollOptions (record : Json) (cancellable : Bool) : Option PollOptions := do
  return {
    timeout := ← field record "poll_timeout"
    frequency := ← fieldOr defaultFrequency record "frequency"
    diagnostics := ← diagnostics record
    cancellable }

section

variable {σ : Type} [Browser σ]

/-- A named check: its outcome is given, or whether the markup of the page contains a text. -/
def callable (spec : Json) : Option (Clause σ) := do
  let name ← text spec "name"
  match ← field spec "source_contains" with
  | some (part : String) =>
    return .callable name do return Text.contains part.toList (← Browser.pageSource).toList
  | none =>
    let outcome : Json ← need spec "returns"
    match outcome with
    | .bool value => return .callable name (pure value)
    | failure => return .callable name (throw (← read? failure))

instance : Described (Clause σ) where
  read? spec := do
    match ← text spec "clause" with
    | "element_present" => return .elementPresent (← locator spec)
    | "element_not_present" => return .elementNotPresent (← locator spec)
    | "element_visible" => return .elementVisible (← locator spec)
    | "element_not_visible" => return .elementNotVisible (← locator spec)
    | "attribute" =>
      return .attributeHolds (← finder spec) (← text spec "attribute") (← text spec "reference")
        (← fieldOr .equality spec "compare")
    | "ajax_pending" => return .ajaxPending (← flavor spec)
    | "ajax_complete" => return .ajaxComplete (← flavor spec)
    | "page_loading" => return .pageLoading
    | "page_ready" => return .pageReady
    | "script" => return .script (← text spec "js")
    | "callable" => callable spec
    | _ => none

end

end Description

end BrowserWait
