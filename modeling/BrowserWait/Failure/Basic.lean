import BrowserWait.Failure.Status

/-!
# Failures

Why an operation on a remote browser did not give its result. Every cause is a constructor, its wording is one
function, and three questions sort the causes: whether a wait may retry, whether the server ran out of time, and
whether the caller gave up.
-/

namespace BrowserWait

/-- Why an operation failed. -/
inductive Failure where
  /-- The server answered with an error. -/
  | remote (status : Status) (message : String)
  /-- The exchange with the server itself failed. -/
  | transport (message : String)
  /-- The server's answer cannot be interpreted. -/
  | invalidResponse (message : String)
  /-- A finder names no page element. -/
  | unknownElement (value : String)
  /-- A locator cannot be sent to the server. -/
  | invalidLocator (locator : String)
  /-- A comparison cannot run on the server. -/
  | unsupportedPredicate (backend : String)
  /-- A wait condition cannot be read. -/
  | invalidCondition (condition : String)
  /-- A directive is not in the vocabulary. -/
  | unknownDirective (name : String)
  /-- A command needs a session and there is none. -/
  | noSession
  /-- The configuration is wrong. -/
  | config (message : String)
  /-- A wait on the server did not end well. -/
  | assertion (message : String)
  /-- The caller gave up the wait. -/
  | interrupted
  /-- A file cannot be read as text. -/
  | unreadableFile
  /-- A JSON document does not have the wanted form. -/
  | malformedJson
  /-- A YAML document does not have the wanted form. -/
  | malformedYaml
deriving DecidableEq, Repr

namespace Failure

/-- Outcomes can be compared. -/
instance decEqOutcome {α : Type} [DecidableEq α] : DecidableEq (Except Failure α)
  | .ok a, .ok b => decidable_of_iff (a = b) (by simp)
  | .error a, .error b => decidable_of_iff (a = b) (by simp)
  | .ok _, .error _ | .error _, .ok _ => isFalse (by simp)

/-- The failure of an answer of some kind; an empty or missing message gives way to the kind's description. -/
def ofAnswer (status : Status) (message : Option String) : Failure :=
  remote status ((message.filter (· != "")).getD status.detail)

/-- The wording of a failure. -/
def message : Failure → String
  | remote status message => status.summary ++ ": " ++ message
  | transport message => "Transport failed: " ++ message
  | invalidResponse message => "Invalid response: " ++ message
  | unknownElement value => "Unknown page element " ++ value
  | invalidLocator locator => "Invalid locator: " ++ locator
  | unsupportedPredicate backend =>
    "Passing a predicate to evaluate_element is not supported by the " ++ backend ++ " backend"
  | invalidCondition condition => "Invalid wait condition: " ++ condition
  | unknownDirective name => "Unknown wait directive: " ++ name
  | noSession => "No browser session"
  | config message => "Configuration error: " ++ message
  | assertion message => "Assertion failed: " ++ message
  | interrupted => "Interrupted"
  | unreadableFile => "I/O error"
  | malformedJson => "JSON error"
  | malformedYaml => "YAML error"

/-- The status kind of a server's error. -/
def status? : Failure → Option Status
  | remote status _ => some status
  | _ => none

/-- Whether a failure is a server's error of the given kind. -/
def hasStatus (failure : Failure) (status : Status) : Bool := failure.status? == some status

/-- Whether the caller gave up; such a failure is never overtaken by another one. -/
def isFatal (failure : Failure) : Bool := failure == interrupted

/-- Whether a wait may take the failure for "not yet". -/
def isTransient (failure : Failure) : Bool := failure.status?.any Status.isRetryable

/-- Whether the server ran out of time. -/
def isTimeout (failure : Failure) : Bool := failure.status?.any (·.category == .timeout)

@[simp] theorem status?_ofAnswer (status : Status) (message : Option String) :
    (ofAnswer status message).status? = some status := rfl

@[simp] theorem isTransient_ofAnswer (status : Status) (message : Option String) :
    (ofAnswer status message).isTransient = status.isRetryable := rfl

/-- Giving up is never retried. -/
theorem isTransient_eq_false_of_isFatal {failure : Failure} (fatal : failure.isFatal = true) :
    failure.isTransient = false := by
  cases failure <;> simp_all [isFatal, isTransient, status?]

end Failure

end BrowserWait
