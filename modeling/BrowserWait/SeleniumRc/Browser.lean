import BrowserWait.SeleniumRc.Client
import BrowserWait.Session.Cookie
import BrowserWait.Wait.Condition
import BrowserWait.Wait.Script

/-!
# Selenium RC browsers

What a test does with a browser behind an RC server: open pages, wait, and handle cookies. Waits run on the server; a
wait that the server reports as an error fails with the condition and the time in its message, and never gives false.
-/

namespace BrowserWait.SeleniumRc

/-- What stands before a condition's script, so that it sees the page's window. -/
def windowPrelude : String := "var window = selenium.browserbot.getCurrentWindow(); "

/-- How a browser is used. -/
structure Settings where
  /-- What relative URLs are resolved against. -/
  baseUrl : Option String := none
  flavor : AjaxFlavor := .jQuery
  diagnostics : Diagnostics := {}
deriving DecidableEq, Repr, Inhabited

namespace Client

variable {τ : Type} [Server τ]

/-- The names and values of the cookies, in order. -/
def cookies : Action (Client τ) (List (String × String)) := do return Cookie.ofHeader (← call .getCookie)

/-- Sets a cookie; of its scope only the path is told. -/
def setCookie (cookie : Cookie) : Action (Client τ) Unit :=
  run (.createCookie (cookie.name ++ "=" ++ cookie.value)
    (match cookie.path with
    | some path => "path=" ++ path
    | none => ""))

/-- Waits on the server until a script's value is true. -/
def waitForScript (script : String) (ms : Nat) : Action (Client τ) Unit :=
  run (.waitForCondition (windowPrelude ++ script) ms)

/-- Waits on the server until an element is there or not there, under a timeout of its own if one is given. -/
def waitForElement (locator : Locator) (present : Bool) (timeout : Option Nat) : Action (Client τ) Unit :=
  TimedSession.withTimeout timeout
    (run (if present then .waitForElementPresent locator.text else .waitForElementNotPresent locator.text))

/-- A step that waits on the server: true once it succeeds, with its failure naming the condition. -/
def asWait (condition : String) (ms : Nat) (step : Action (Client τ) Unit) : Action (Client τ) Bool :=
  Action.mapOutcome
    (fun
      | .ok _ => .ok true
      | .error failure => .error (waitFailed condition ms failure))
    step

/-- The time of a wait: the given one, or the one in force. -/
def waitTime (client : Client τ) (timeout : Option Nat) : Nat := timeout.getD client.currentTimeout

/-- Waits on the server for a compound condition; an empty one needs no server. -/
def waitForExpression (wait : ScriptWait) (timeout : Option Nat) : Action (Client τ) Bool := do
  let script ← Action.ofExcept wait.compile
  if script = "" then return true
  let ms := (← get).waitTime timeout
  asWait wait.describe ms (waitForScript script ms)

end Client

namespace Settings

/-- An empty wait with a browser's settings. -/
def newWait (settings : Settings) : ScriptWait := { flavor := settings.flavor, diagnostics := settings.diagnostics }

variable {τ : Type} [Server τ]

/-- Waits for a condition. Nothing and time are waited for here, all else on the server. -/
def waitFor (settings : Settings) (condition : Condition) (timeout : Option Nat) : Action (World (Client τ)) Bool := do
  let ms := (← get).browser.waitTime timeout
  match condition with
  | .none => return true
  | .duration given =>
    World.pause (given.getD ms)
    return true
  | .page => World.onBrowser (Client.asWait condition.text ms (Client.run (.waitForPageToLoad ms)))
  | .element locator => World.onBrowser (Client.asWait condition.text ms (Client.waitForElement locator true timeout))
  | .notElement locator =>
    World.onBrowser (Client.asWait condition.text ms (Client.waitForElement locator false timeout))
  | .ajax => World.onBrowser (Client.asWait condition.text ms (Client.waitForScript settings.flavor.complete ms))
  | .script expression => World.onBrowser (Client.asWait condition.text ms (Client.waitForScript expression ms))
  | .visible locator =>
    World.onBrowser
      (Client.waitForExpression (settings.newWait.apply (.elementVisible (.element locator))) timeout)
  | .notVisible locator =>
    World.onBrowser
      (Client.waitForExpression (settings.newWait.apply (.elementNotVisible (.element locator))) timeout)

/-- Launches a browser if there is none, against the URL to be opened unless another one was given. -/
def ensureStarted (url : String) : Action (Client τ) Unit := do
  if (← get).session.isNone then
    modify fun client => if client.browserUrl = "" then { client with browserUrl := url } else client
    Client.start

/-- Loads a URL, launching a browser if there is none, and waits for a condition. Loading waits for the page itself. -/
def openPage (settings : Settings) (url : String) (condition : Condition) (timeout : Option Nat) :
    Action (World (Client τ)) Bool := do
  let url := Url.resolveIn settings.baseUrl url
  World.onBrowser (ensureStarted url)
  World.onBrowser (TimedSession.withTimeout timeout (Client.run (.open url)))
  if condition = .page then return true
  settings.waitFor condition timeout

end Settings

end BrowserWait.SeleniumRc
