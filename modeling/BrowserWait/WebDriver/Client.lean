import BrowserWait.Session.Timeout
import BrowserWait.Session.Url
import BrowserWait.Wait.Poll
import BrowserWait.WebDriver.Answer
import BrowserWait.WebDriver.Command

/-!
# JSONWire sessions

A client of a JSONWire hub with at most one session. Every command but the one that starts a session is addressed to
the session at hand, and the timeout the client believes in force is the last one the server acknowledged in it.
-/

namespace BrowserWait.WebDriver

/-- The path of the hub below a server's URL. -/
def hubPath : String := "/wd/hub"

/-- The browser asked for when the capabilities name none. -/
def defaultBrowserName : String := "phantomjs"

/-- The capability that names the browser. -/
def browserNameKey : String := "browserName"

/-- The key of an element reference. -/
def elementKey : String := "ELEMENT"

/-- The key of an element reference in the newer protocol. -/
def standardElementKey : String := "element-6066-11e4-a52e-4f735466cecf"

/-- The kind of the timeout a session has. -/
def timeoutKind : String := "page load"

/-- A client of a hub. -/
structure Client (τ : Type) where
  server : τ
  hub : String
  /-- What is asked of the browser of a new session. -/
  capabilities : List (String × Json) := []
  session : Option String := none
  /-- The timeout a new session gets, in milliseconds. -/
  defaultTimeout : Nat := defaultTimeout
  /-- The timeout in force, if one was set in the session. -/
  timeout : Option Nat := none

namespace Client

variable {τ : Type}

/-- A client of the hub below a server's URL. -/
def ofServerUrl (server : τ) (url : String) : Client τ :=
  { server, hub := Url.withoutTrailingSlashes url ++ hubPath }

/-- The timeout in force, or the one a new session gets. -/
def currentTimeout (client : Client τ) : Nat := client.timeout.getD client.defaultTimeout

variable [Server τ]

/-- Sends a request. -/
def send (request : Request) : Action (Client τ) Response :=
  Action.onPart server (fun server client => { client with server }) (Server.send request)

/-- Sends a command and gives the whole answer. -/
def exchange (command : Command) : Action (Client τ) Json := do
  let client ← get
  let request ← Action.ofExcept (command.request client.hub client.session)
  let response ← send request
  Action.ofExcept (classify response)

/-- Sends a command and gives the answer's value; an answer without one gives null. -/
def call (command : Command) : Action (Client τ) Json := do
  let answer ← exchange command
  return (answer.member? "value").getD .null

/-- Sends a command for its effect. -/
def run (command : Command) : Action (Client τ) Unit := do
  let _ ← call command

/-- Puts a timeout in force, unless it is already. -/
def setTimeout (ms : Nat) : Action (Client τ) Unit := do
  if (← get).timeout ≠ some ms then run (.setTimeouts timeoutKind ms)
  modify fun client => { client with timeout := some ms }

instance : TimedSession (Client τ) where
  sessionTimeout := timeout
  setTimeout := setTimeout

/-- Starts a session and gives it the default timeout. -/
def newSession : Action (Client τ) Unit := do
  let client ← get
  let wanted := Json.withDefault browserNameKey (.string defaultBrowserName) client.capabilities
  let answer ← exchange (.newSession wanted)
  match (answer.member? "sessionId").bind Json.text? with
  | none => throw (.invalidResponse "new session response has no sessionId")
  | some session =>
    modify fun client => { client with session := some session, timeout := none }
    setTimeout client.defaultTimeout

/-- Ends the session. -/
def quit : Action (Client τ) Unit := do
  let _ ← exchange .quit
  modify fun client => { client with session := none, timeout := none }

/-- Loads a URL, under a timeout of its own if one is given. -/
def navigate (url : String) (timeout : Option Nat) : Action (Client τ) Unit :=
  TimedSession.withTimeout timeout (run (.navigate url))

/-- Clicks an element. -/
def clickElement (id : ElementId) : Action (Client τ) Unit := run (.clickElement id)

/-- The text of a command's value: none for null, and the JSON text of a value that is no string. -/
def textOf (command : Command) : Action (Client τ) (Option String) := do
  match ← call command with
  | .null => return none
  | value => return some value.plainText

/-- The element an answer's value refers to. -/
def elementOf (value : Json) : Except Failure ElementId :=
  match ((value.member? elementKey).or (value.member? standardElementKey)).bind Json.text? with
  | some id => .ok ⟨id⟩
  | none => .error (.invalidResponse ("element reference missing in " ++ value.compact))

/-- The element a locator finds; a locator the protocol has no name for is refused before anything is sent. -/
def findElement (locator : Locator) : Action (Client τ) ElementId := do
  let (strategy, value) ← Action.ofExcept locator.toWire
  let found ← call (.findElement strategy value)
  Action.ofExcept (elementOf found)

/-- Whether an element is displayed; an answer that is no truth value means no. -/
def isDisplayed (id : ElementId) : Action (Client τ) Bool := do
  let shown ← call (.elementDisplayed id)
  return shown.flag?.getD false

/-- The markup of the page. -/
def pageSource : Action (Client τ) String := do return (← textOf .pageSource).getD ""

instance : Browser (Client τ) where
  evaluateScript script := call (.execute script [])
  findElement := findElement
  isDisplayed := isDisplayed
  attribute? id name := textOf (.elementAttribute id name)
  pageSource := pageSource
  currentTimeout := currentTimeout

end Client

end BrowserWait.WebDriver
