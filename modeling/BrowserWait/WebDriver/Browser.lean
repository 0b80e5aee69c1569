import BrowserWait.Wait.Native
import BrowserWait.WebDriver.Client

/-!
# WebDriver browsers

What a test does with a browser behind a JSONWire hub: open pages, click, wait, and handle cookies. Waits poll from
here. A click that waits for a page marks the current one first, so that the wait cannot be satisfied by the page
that is about to be left.
-/

namespace BrowserWait.WebDriver

/-- How a browser is used. -/
structure Settings where
  /-- What relative URLs are resolved against. -/
  baseUrl : Option String := none
  flavor : AjaxFlavor := .jQuery
  poll : PollOptions := {}
deriving Repr, Inhabited

/-- What a session tells about its browser. -/
structure UserAgent where
  browser : String
  platform : String
  version : String
deriving DecidableEq, Repr

namespace Settings

variable {τ : Type}

/-- An empty wait with a browser's settings. -/
def newWait (settings : Settings) : NativeWait (Client τ) := { flavor := settings.flavor, options := settings.poll }

variable [Server τ]

/-- Waits for a condition; false when the time is up. Time itself is waited for here, without the server. -/
def waitFor (settings : Settings) (condition : Condition) (timeout : Option Nat) : Action (World (Client τ)) Bool := do
  match condition with
  | .duration ms =>
    let world ← get
    World.pause ((ms.or timeout).getD world.browser.currentTimeout)
    return true
  | _ =>
    match condition.clause? settings.flavor with
    | none => return true
    | some clause => (settings.newWait.append clause).wait timeout

/-- Starts a session if there is none, loads a URL and waits for a condition. -/
def openPage (settings : Settings) (url : String) (condition : Condition) (timeout : Option Nat) :
    Action (World (Client τ)) Bool := do
  if (← get).browser.session.isNone then World.onBrowser Client.newSession
  World.onBrowser (Client.navigate (Url.resolveIn settings.baseUrl url) timeout)
  settings.waitFor condition timeout

/-- Clicks an element and waits for a condition. -/
def click (settings : Settings) (locator : Locator) (condition : Condition) (timeout : Option Nat) :
    Action (World (Client τ)) Bool := do
  if condition = .page then
    let _ ← World.onBrowser (Browser.evaluateScript (σ := Client τ) PageScript.mark)
  let element ← World.onBrowser (Client.findElement locator)
  World.onBrowser (Client.clickElement element)
  settings.waitFor condition timeout

end Settings

namespace Client

variable {τ : Type} [Server τ]

/-- Marks the page, so that a wait for a page looks for another one. -/
def markPage : Action (Client τ) Unit := do
  let _ ← Browser.evaluateScript (σ := Client τ) PageScript.mark

/-- The URL of the page. -/
def location : Action (Client τ) String := do return (← textOf .currentUrl).getD ""

/-- The names and values of the cookies; of two with the same name the later one counts. -/
def cookies : Action (Client τ) (List (String × String)) := do
  match ← call .getCookies with
  | .array items =>
    match items.mapM Cookie.ofNode? with
    | some cookies => return cookies.map fun cookie => (cookie.name, Cookie.unquoted cookie.value)
    | none => throw .malformedJson
  | _ => throw .malformedJson

/-- Sets a cookie. -/
def setCookie (cookie : Cookie) : Action (Client τ) Unit := run (.addCookie cookie)

/-- Deletes the cookie with a name. -/
def deleteCookie (name : String) : Action (Client τ) Unit := run (.deleteCookie name)

/-- Deletes all cookies. -/
def reset : Action (Client τ) Unit := run .deleteAllCookies

/-- What the session tells about its browser; what it does not tell is unknown. -/
def userAgent : Action (Client τ) UserAgent := do
  let told ← call .capabilities
  let field (key : String) : String := ((told.member? key).bind Json.text?).getD "unknown"
  return ⟨field browserNameKey, field "platform", field "version"⟩

end Client

end BrowserWait.WebDriver
