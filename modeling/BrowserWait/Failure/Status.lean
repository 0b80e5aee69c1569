/-!
# Status kinds

The kinds of answer a JSONWire server gives, each with its status code, its name and its texts. A code outside the
table stands for an unknown error, so every code has a kind. The kinds a wait may retry are the transient ones and
the server's own timeouts.
-/

namespace BrowserWait

/-- How a wait treats an answer of some kind. -/
inductive Category where
  /-- The command was carried out. -/
  | success
  /-- The page is not in the wanted state yet. -/
  | transient
  /-- The server ran out of time. -/
  | timeout
  /-- The request was wrong; retrying does not help. -/
  | protocol
deriving DecidableEq, Repr

/-- The kind of a server's answer. -/
inductive Status where
  | success
  | noSuchDriver
  | noSuchElement
  | noSuchFrame
  | unknownCommand
  | staleElementReference
  | elementNotVisible
  | invalidElementState
  | unknownError
  | elementIsNotSelectable
  | javaScriptError
  | xPathLookupError
  | timeout
  | noSuchWindow
  | invalidCookieDomain
  | unableToSetCookie
  | unexpectedAlertOpen
  | noAlertOpen
  | scriptTimeout
  | invalidElementCoordinates
  | imeNotAvailable
  | imeEngineActivationFailed
  | invalidSelector
  | sessionNotCreated
  | moveTargetOutOfBounds
deriving DecidableEq, Repr

namespace Category

/-- The name of a category. -/
def name : Category → String
  | success => "Success"
  | transient => "Transient"
  | timeout => "Timeout"
  | protocol => "Protocol"

end Category

namespace Status

/-- Every kind, by increasing code. -/
def all : List Status :=
  [success, noSuchDriver, noSuchElement, noSuchFrame, unknownCommand, staleElementReference, elementNotVisible,
    invalidElementState, unknownError, elementIsNotSelectable, javaScriptError, xPathLookupError, timeout,
    noSuchWindow, invalidCookieDomain, unableToSetCookie, unexpectedAlertOpen, noAlertOpen, scriptTimeout,
    invalidElementCoordinates, imeNotAvailable, imeEngineActivationFailed, invalidSelector, sessionNotCreated,
    moveTargetOutOfBounds]

/-- The status code of a kind. -/
def code : Status → Nat
  | success => 0
  | noSuchDriver => 6
  | noSuchElement => 7
  | noSuchFrame => 8
  | unknownCommand => 9
  | staleElementReference => 10
  | elementNotVisible => 11
  | invalidElementState => 12
  | unknownError => 13
  | elementIsNotSelectable => 15
  | javaScriptError => 17
  | xPathLookupError => 19
  | timeout => 21
  | noSuchWindow => 23
  | invalidCookieDomain => 24
  | unableToSetCookie => 25
  | unexpectedAlertOpen => 26
  | noAlertOpen => 27
  | scriptTimeout => 28
  | invalidElementCoordinates => 29
  | imeNotAvailable => 30
  | imeEngineActivationFailed => 31
  | invalidSelector => 32
  | sessionNotCreated => 33
  | moveTargetOutOfBounds => 34

/-- The name of a kind in documents. -/
def name : Status → String
  | success => "Success"
  | noSuchDriver => "NoSuchDriver"
  | noSuchElement => "NoSuchElement"
  | noSuchFrame => "NoSuchFrame"
  | unknownCommand => "UnknownCommand"
  | staleElementReference => "StaleElementReference"
  | elementNotVisible => "ElementNotVisible"
  | invalidElementState => "InvalidElementState"
  | unknownError => "UnknownError"
  | elementIsNotSelectable => "ElementIsNotSelectable"
  | javaScriptError => "JavaScriptError"
  | xPathLookupError => "XPathLookupError"
  | timeout => "Timeout"
  | noSuchWindow => "NoSuchWindow"
  | invalidCookieDomain => "InvalidCookieDomain"
  | unableToSetCookie => "UnableToSetCookie"
  | unexpectedAlertOpen => "UnexpectedAlertOpen"
  | noAlertOpen => "NoAlertOpen"
  | scriptTimeout => "ScriptTimeout"
  | invalidElementCoordinates => "InvalidElementCoordinates"
  | imeNotAvailable => "ImeNotAvailable"
  | imeEngineActivationFailed => "ImeEngineActivationFailed"
  | invalidSelector => "InvalidSelector"
  | sessionNotCreated => "SessionNotCreated"
  | moveTargetOutOfBounds => "MoveTargetOutOfBounds"

/-- The summary that leads a failure's text: the name, but for four kinds. -/
def summary : Status → String
  | noAlertOpen => "NoAlertOpenError"
  | imeNotAvailable => "IMENotAvailable"
  | imeEngineActivationFailed => "IMEEngineActivationFailed"
  | sessionNotCreated => "SessionNotCreatedException"
  | kind => kind.name

/-- The description that stands in for a missing message. -/
def detail : Status → String
  | success => "The command executed successfully."
  | noSuchDriver => "A session is either terminated or not started."
  | noSuchElement => "An element could not be located on the page using the given search parameters."
  | noSuchFrame =>
    "A request to switch to a frame could not be satisfied because the frame could not be found."
  | unknownCommand =>
    "The requested resource could not be found, or a request was received using an HTTP method that is not " ++
      "supported by the mapped resource."
  | staleElementReference =>
    "An element command failed because the referenced element is no longer attached to the DOM."
  | elementNotVisible =>
    "An element command could not be completed because the element is not visible on the page."
  | invalidElementState =>
    "An element command could not be completed because the element is in an invalid state."
  | unknownError => "An unknown server-side error occurred while processing the command."
  | elementIsNotSelectable => "An attempt was made to select an element that cannot be selected."
  | javaScriptError => "An error occurred while executing user supplied JavaScript."
  | xPathLookupError => "An error occurred while searching for an element by XPath."
  | timeout => "An operation did not complete before its timeout expired."
  | noSuchWindow =>
    "A request to switch to a different window could not be satisfied because the window could not be found."
  | invalidCookieDomain =>
    "An illegal attempt was made to set a cookie under a different domain than the current page."
  | unableToSetCookie => "A request to set a cookie's value could not be satisfied."
  | unexpectedAlertOpen => "A modal dialog was open, blocking this operation."
  | noAlertOpen => "An attempt was made to operate on a modal dialog when one was not open."
  | scriptTimeout => "A script did not complete before its timeout expired."
  | invalidElementCoordinates => "The coordinates provided to an interactions operation are invalid."
  | imeNotAvailable => "IME was not available."
  | imeEngineActivationFailed => "An IME engine could not be started."
  | invalidSelector => "Argument was an invalid selector (e.g. XPath/CSS)."
  | sessionNotCreated => "A new session could not be created."
  | moveTargetOutOfBounds => "Target provided for a move action is out of bounds."

/-- The category of a kind. -/
def category : Status → Category
  | success => .success
  | noSuchElement | noSuchFrame | staleElementReference | elementNotVisible | invalidElementState | unknownError =>
    .transient
  | timeout | scriptTimeout => .timeout
  | noSuchDriver | unknownCommand | elementIsNotSelectable | javaScriptError | xPathLookupError | noSuchWindow
  | invalidCookieDomain | unableToSetCookie | unexpectedAlertOpen | noAlertOpen | invalidElementCoordinates
  | imeNotAvailable | imeEngineActivationFailed | invalidSelector | sessionNotCreated | moveTargetOutOfBounds =>
    .protocol

/-- Whether a wait may take an answer of this kind for "not yet". -/
def isRetryable (kind : Status) : Bool := kind.category == .transient || kind.category == .timeout

/-- The kind of a status code; a code outside the table is an unknown error. -/
def ofCode (code : Nat) : Status := (all.find? (·.code == code)).getD unknownError

/-- The kind with a given name. -/
def ofName? (name : String) : Option Status := all.find? (·.name == name)

theorem mem_all (kind : Status) : kind ∈ all := by cases kind <;> decide

@[simp] theorem ofCode_code (kind : Status) : ofCode kind.code = kind := by cases kind <;> decide

/-- A code names a kind of its own exactly when it stands in the table. -/
theorem code_ofCode_iff {code : Nat} : (ofCode code).code = code ↔ ∃ kind : Status, kind.code = code := by
  constructor
  · exact fun same => ⟨_, same⟩
  · rintro ⟨kind, rfl⟩
    rw [ofCode_code]

theorem ofCode_of_not_mem {code : Nat} (outside : ∀ kind : Status, kind.code ≠ code) :
    ofCode code = unknownError := by
  have none : all.find? (·.code == code) = none := by simpa using fun kind _ => outside kind
  simp [ofCode, none]

/-- Only the code of a success stands for one. -/
theorem ofCode_eq_success_iff {code : Nat} : ofCode code = success ↔ code = 0 := by
  by_cases known : ∃ kind : Status, kind.code = code
  · obtain ⟨kind, rfl⟩ := known
    rw [ofCode_code]
    cases kind <;> decide
  · rw [ofCode_of_not_mem (not_exists.mp known)]
    simpa using fun zero => known ⟨success, zero.symm⟩

end Status

end BrowserWait
