import BrowserWait.Wait.Clause

/-!
# Directives

The vocabulary in which waits are put together: one directive per clause, and one that joins what was built so far
with the next clause by OR. A directive is read from its name and its arguments, or from a list that holds both.
-/

namespace BrowserWait

/-- One step in building a wait. -/
inductive Directive where
  | elementPresent (finder : Finder)
  | elementNotPresent (finder : Finder)
  | elementVisible (finder : Finder)
  | elementNotVisible (finder : Finder)
  /-- Without a comparison of its own the attribute has to equal the reference. -/
  | evaluateElement (finder : Finder) (property reference : String) (comparison : Option Comparison)
  | ajaxPending
  | ajaxComplete
  | pageLoading
  | pageReady
  | or

/-- What a directive does, without its arguments. -/
inductive Verb where
  | elementPresent
  | elementNotPresent
  | elementVisible
  | elementNotVisible
  | evaluateElement
  | ajaxPending
  | ajaxComplete
  | pageLoading
  | pageReady
  | or
deriving DecidableEq, Repr

namespace Verb

/-- Every verb. -/
def all : List Verb :=
  [elementPresent, elementNotPresent, elementVisible, elementNotVisible, evaluateElement, ajaxPending, ajaxComplete,
    pageLoading, pageReady, or]

/-- The name of a verb. -/
def name : Verb → String
  | elementPresent => "element_present"
  | elementNotPresent => "element_not_present"
  | elementVisible => "element_visible"
  | elementNotVisible => "element_not_visible"
  | evaluateElement => "evaluate_element"
  | ajaxPending => "ajax_pending"
  | ajaxComplete => "ajax_complete"
  | pageLoading => "page_loading"
  | pageReady => "page_ready"
  | or => "or_"

/-- The number of arguments of a verb. -/
def arity : Verb → Nat
  | elementPresent | elementNotPresent | elementVisible | elementNotVisible => 1
  | evaluateElement => 3
  | ajaxPending | ajaxComplete | pageLoading | pageReady | or => 0

/-- The verb with a name; one verb has a second name. -/
def ofName? (name : String) : Option Verb := if name = "or" then some or else all.find? (·.name == name)

@[simp] theorem ofName?_name (verb : Verb) : ofName? verb.name = some verb := by cases verb <;> decide

end Verb

namespace Directive

/-- The verb of a directive. -/
def verb : Directive → Verb
  | elementPresent _ => .elementPresent
  | elementNotPresent _ => .elementNotPresent
  | elementVisible _ => .elementVisible
  | elementNotVisible _ => .elementNotVisible
  | evaluateElement .. => .evaluateElement
  | ajaxPending => .ajaxPending
  | ajaxComplete => .ajaxComplete
  | pageLoading => .pageLoading
  | pageReady => .pageReady
  | or => .or

/-- The name of a directive. -/
def name (directive : Directive) : String := directive.verb.name

/-- The failure of a name with a wrong number of arguments. -/
def wrongCount (name : String) (expected got : Nat) : Failure :=
  .invalidCondition (name ++ " takes " ++ toString expected ++ " argument(s), got " ++ toString got)

/-- The directive of a name and its arguments. The name is looked at first, then the number of arguments, then the
finder; an attribute or a reference that is no string stands for its JSON text. -/
def ofArguments (name : String) (arguments : List Json) : Except Failure Directive :=
  match Verb.ofName? name, arguments with
  | none, _ => .error (.unknownDirective name)
  | some .elementPresent, [finder] => elementPresent <$> Finder.ofJson finder
  | some .elementNotPresent, [finder] => elementNotPresent <$> Finder.ofJson finder
  | some .elementVisible, [finder] => elementVisible <$> Finder.ofJson finder
  | some .elementNotVisible, [finder] => elementNotVisible <$> Finder.ofJson finder
  | some .evaluateElement, [finder, property, reference] =>
    (evaluateElement · property.plainText reference.plainText none) <$> Finder.ofJson finder
  | some .ajaxPending, [] => .ok ajaxPending
  | some .ajaxComplete, [] => .ok ajaxComplete
  | some .pageLoading, [] => .ok pageLoading
  | some .pageReady, [] => .ok pageReady
  | some .or, [] => .ok or
  | some verb, arguments => .error (wrongCount name verb.arity arguments.length)

/-- The directive of a list that begins with its name; any other value is an invalid condition. -/
def ofJson : Json → Except Failure Directive
  | .array (.string name :: arguments) => ofArguments name arguments
  | value => .error (.invalidCondition value.compact)

end Directive

/-- A wait under construction. Failures in building it are kept until it is used, the first one only. -/
class WaitBuilder (β : Type) where
  /-- The wait with one directive more. -/
  apply : β → Directive → β
  /-- The wait with a failure kept, unless there is one already. -/
  fail : β → Failure → β
  /-- The failure that is kept. -/
  deferred? : β → Option Failure

namespace WaitBuilder

variable {β : Type} [WaitBuilder β]

/-- The wait with one directive more, or with the failure to read it. -/
def applyRead (wait : β) : Except Failure Directive → β
  | .ok directive => apply wait directive
  | .error failure => fail wait failure

/-- The wait with directives applied in order. -/
def applyAll (wait : β) (directives : List Directive) : β := directives.foldl apply wait

/-- The wait with the directives of JSON values applied in order. -/
def applySpecs (wait : β) (specs : List Json) : β :=
  specs.foldl (fun wait spec => applyRead wait (Directive.ofJson spec)) wait

end WaitBuilder

end BrowserWait
