import BrowserWait.SeleniumRc.Answer
import BrowserWait.SeleniumRc.Command
import BrowserWait.Session.Timeout
import BrowserWait.Session.Url
import BrowserWait.Wait.Poll

/-!
# Selenium RC sessions

A client of an RC server with at most one session. Every command but the one that starts a session is addressed to
the session at hand, and the timeout the client believes in force is the last one the server acknowledged in it.
-/

namespace BrowserWait.SeleniumRc

/-- The path of the driver below a server's URL. -/
def driverPath : String := "/selenium-server/driver/"

/-- The browser launched unless told otherwise. -/
def defaultBrowser : String := "*phantomjs"

/-- The script that gives the browser's own name. -/
def agentScript : String := "navigator.userAgent"

/-- A client of an RC server. -/
structure Client (τ : Type) where
  server : τ
  driver : String
  browser : String := defaultBrowser
  /-- The URL a browser is launched against. -/
  browserUrl : String := ""
  launchOptions : String := ""
  session : Option String := none
  /-- The timeout a new session gets, in milliseconds. -/
  defaultTimeout : Nat := defaultTimeout
  /-- The timeout in force, if one was set in the session. -/
  timeout : Option Nat := none
  /-- The browser's own name, as the last session that got so far told it. -/
  agent : Option String := none

namespace Client

variable {τ : Type}

/-- A client of the driver below a server's URL. -/
def ofServerUrl (server : τ) (url browser : String) : Client τ :=
  { server, driver := Url.withoutTrailingSlashes url ++ driverPath, browser }

/-- The timeout in force, or the one a new session gets. -/
def currentTimeout (client : Client τ) : Nat := client.timeout.getD client.defaultTimeout

variable [Server τ]

/-- Sends a request. -/
def send (request : Request) : Action (Client τ) Response :=
  Action.onPart server (fun server client => { client with server }) (Server.send request)

/-- Sends a command and gives the data of its answer. -/
def call (command : Command) : Action (Client τ) String := do
  let client ← get
  let request ← Action.ofExcept (command.request client.driver client.session)
  let response ← send request
  Action.ofExcept (classify response)

/-- Sends a command for its effect. -/
def run (command : Command) : Action (Client τ) Unit := do
  let _ ← call command

/-- Puts a timeout in force, unless it is already. -/
def setTimeout (ms : Nat) : Action (Client τ) Unit := do
  if (← get).timeout ≠ some ms then run (.setTimeout ms)
  modify fun client => { client with timeout := some ms }

instance : TimedSession (Client τ) where
  sessionTimeout := timeout
  setTimeout := setTimeout

/-- Launches a browser, gives its session the default timeout and asks the browser for its name. -/
def start : Action (Client τ) Unit := do
  let client ← get
  let session ← call (.getNewBrowserSession client.browser client.browserUrl "" client.launchOptions)
  modify fun client => { client with session := some session, timeout := none }
  setTimeout client.defaultTimeout
  let agent ← call (.getEval agentScript)
  modify fun client => { client with agent := some agent }

/-- Closes the browser. -/
def testComplete : Action (Client τ) Unit := do
  run .testComplete
  modify fun client => { client with session := none, timeout := none }

/-! ## Pages and cookies -/

/-- The URL of the page. -/
def location : Action (Client τ) String := call .getLocation

/-- The markup of the page, inside an `html` element. -/
def pageSource : Action (Client τ) String := do return "<html>" ++ (← call .getHtmlSource) ++ "</html>"

/-- Deletes all visible cookies. -/
def reset : Action (Client τ) Unit := run .deleteAllVisibleCookies

/-- Deletes the cookie with a name. -/
def deleteCookie (name : String) : Action (Client τ) Unit := run (.deleteCookie name none)

end Client

end BrowserWait.SeleniumRc
