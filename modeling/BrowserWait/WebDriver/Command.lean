import BrowserWait.Session.Cookie
import BrowserWait.Session.Http

/-!
# JSONWire commands

The commands of the JSONWire protocol with the request each one becomes: a verb, a path below the hub and, for most
commands that are posted, a JSON body. All but one are addressed to a session.
-/

namespace BrowserWait.WebDriver

/-- A JSONWire command. -/
inductive Command where
  | newSession (wanted : List (String × Json))
  | quit
  | navigate (url : String)
  | currentUrl
  | pageSource
  | execute (script : String) (arguments : List Json)
  | findElement (strategy value : String)
  | elementDisplayed (id : ElementId)
  | elementAttribute (id : ElementId) (name : String)
  | clickElement (id : ElementId)
  | setTimeouts (kind : String) (ms : Nat)
  | getCookies
  | addCookie (cookie : Cookie)
  | deleteCookie (name : String)
  | deleteAllCookies
  | capabilities
deriving DecidableEq, Repr

namespace Command

/-- The short name of a command. -/
def name : Command → String
  | newSession _ => "newSession"
  | quit => "quit"
  | navigate _ => "get"
  | currentUrl => "getCurrentUrl"
  | pageSource => "getPageSource"
  | execute .. => "executeScript"
  | findElement .. => "findElement"
  | elementDisplayed _ => "isElementDisplayed"
  | elementAttribute .. => "getElementAttribute"
  | clickElement _ => "clickElement"
  | setTimeouts .. => "setTimeout"
  | getCookies => "getCookies"
  | addCookie _ => "addCookie"
  | deleteCookie _ => "deleteCookie"
  | deleteAllCookies => "deleteAllCookies"
  | capabilities => "getCapabilities"

/-- The verb of a command. -/
def method : Command → HttpMethod
  | currentUrl | pageSource | elementDisplayed _ | elementAttribute .. | getCookies | capabilities => .get
  | quit | deleteCookie _ | deleteAllCookies => .delete
  | newSession _ | navigate _ | execute .. | findElement .. | clickElement _ | setTimeouts .. | addCookie _ => .post

/-- Whether a command is addressed to a session. -/
def requiresSession : Command → Bool
  | newSession _ => false
  | _ => true

/-- The path below the hub of all new sessions. -/
def sessionsPath : String := "session"

/-- The path of a command below its session's. -/
def pathInSession : Command → String
  | newSession _ | quit | capabilities => ""
  | navigate _ | currentUrl => "/url"
  | pageSource => "/source"
  | execute .. => "/execute"
  | findElement .. => "/element"
  | elementDisplayed id => "/element/" ++ id.text ++ "/displayed"
  | elementAttribute id name => "/element/" ++ id.text ++ "/attribute/" ++ name
  | clickElement id => "/element/" ++ id.text ++ "/click"
  | setTimeouts .. => "/timeouts"
  | getCookies | addCookie _ | deleteAllCookies => "/cookie"
  | deleteCookie name => "/cookie/" ++ name

/-- The path of a command below the hub. -/
def path (command : Command) (session : Option String) : Except Failure String :=
  if command.requiresSession then
    match session with
    | some session => .ok (sessionsPath ++ "/" ++ session ++ command.pathInSession)
    | none => .error .noSession
  else .ok sessionsPath

/-- The JSON body of a command, if it has one. -/
def body? : Command → Option Json
  | newSession wanted => some (.ofMembers [("desiredCapabilities", .object wanted)])
  | navigate url => some (.ofMembers [("url", .string url)])
  | execute script arguments => some (.ofMembers [("script", .string script), ("args", .array arguments)])
  | findElement strategy value => some (.ofMembers [("using", .string strategy), ("value", .string value)])
  | clickElement _ => some (.ofMembers [])
  | setTimeouts kind ms => some (.ofMembers [("type", .string kind), ("ms", .natural ms)])
  | addCookie cookie => some (.ofMembers [("cookie", cookie.json)])
  | quit | currentUrl | pageSource | elementDisplayed _ | elementAttribute .. | getCookies | deleteCookie _
  | deleteAllCookies | capabilities => none

/-- The request of a command to a hub. -/
def request (hub : String) (session : Option String) (command : Command) : Except Failure Request := do
  let path ← command.path session
  return {
    method := command.method
    url := hub ++ "/" ++ path
    body := match command.body? with
      | some value => .json value
      | none => .empty }

end Command

end BrowserWait.WebDriver
