import BrowserWait.Session.Http
import BrowserWait.Text.Numeral

/-!
# Selenium RC commands

The commands of the RC protocol. Each becomes a form with its name, its arguments under the numbers from 1 on, and
the session it is addressed to; all but one are addressed to a session.
-/

namespace BrowserWait.SeleniumRc

/-- An RC command. -/
inductive Command where
  | getNewBrowserSession (browser url extensionJs options : String)
  | testComplete
  | «open» (url : String)
  | setTimeout (ms : Nat)
  | waitForPageToLoad (ms : Nat)
  | waitForCondition (script : String) (ms : Nat)
  | waitForElementPresent (locator : String)
  | waitForElementNotPresent (locator : String)
  | getHtmlSource
  | getLocation
  | getEval (script : String)
  | getCookie
  | createCookie (pair options : String)
  | deleteCookie (name : String) (path : Option String)
  | deleteAllVisibleCookies
deriving DecidableEq, Repr

namespace Command

/-- The name of a command. -/
def name : Command → String
  | getNewBrowserSession .. => "getNewBrowserSession"
  | testComplete => "testComplete"
  | «open» _ => "open"
  | setTimeout _ => "setTimeout"
  | waitForPageToLoad _ => "waitForPageToLoad"
  | waitForCondition .. => "waitForCondition"
  | waitForElementPresent _ => "waitForElementPresent"
  | waitForElementNotPresent _ => "waitForElementNotPresent"
  | getHtmlSource => "getHtmlSource"
  | getLocation => "getLocation"
  | getEval _ => "getEval"
  | getCookie => "getCookie"
  | createCookie .. => "createCookie"
  | deleteCookie .. => "deleteCookie"
  | deleteAllVisibleCookies => "deleteAllVisibleCookies"

/-- Whether a command is addressed to a session. -/
def requiresSession : Command → Bool
  | getNewBrowserSession .. => false
  | _ => true

/-- The arguments of a command, in order. -/
def arguments : Command → List String
  | getNewBrowserSession browser url extensionJs options => [browser, url, extensionJs, options]
  | «open» url => [url, "true"]
  | setTimeout ms | waitForPageToLoad ms => [toString ms]
  | waitForCondition script ms => [script, toString ms]
  | waitForElementPresent locator | waitForElementNotPresent locator => [locator]
  | getEval script => [script]
  | createCookie pair options => [pair, options]
  | deleteCookie name path => [name, path.getD ""]
  | testComplete | getHtmlSource | getLocation | getCookie | deleteAllVisibleCookies => []

/-- Arguments under consecutive numbers. -/
def numbered : (first : Nat) → List String → List (String × String)
  | _, [] => []
  | first, argument :: more => (toString first, argument) :: numbered (first + 1) more

/-- The form of a command: its name, its arguments, and the session it is addressed to. -/
def form (command : Command) (session : Option String) : Except Failure (List (String × String)) :=
  let fields := ("cmd", command.name) :: numbered 1 command.arguments
  if command.requiresSession then
    match session with
    | some session => .ok (fields ++ [("sessionId", session)])
    | none => .error .noSession
  else .ok fields

/-- The request of a command to a driver. -/
def request (driver : String) (session : Option String) (command : Command) : Except Failure Request := do
  return { method := .post, url := driver, body := .form (← command.form session) }

end Command

end BrowserWait.SeleniumRc
