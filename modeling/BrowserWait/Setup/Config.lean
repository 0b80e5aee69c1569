import BrowserWait.SeleniumRc.Browser
import BrowserWait.WebDriver.Browser
import BrowserWait.Yaml.Reader

/-!
# Configuration

How to reach a browser: read from a document, changed by overrides, and turned into a client with the settings it is
used with. Overrides name a key of the document, with dashes for underscores if one likes; they apply in the order of
their keys, empty ones do not count, and the first that is wrong is the failure.
-/

namespace BrowserWait

/-- The protocols a browser can be driven by. -/
inductive Backend where
  | webDriver
  | selenium
deriving DecidableEq, Repr, Inhabited

namespace Backend

/-- The name of a protocol. -/
def name : Backend → String
  | webDriver => "webdriver"
  | selenium => "selenium"

/-- The protocol with a name. -/
def ofName? (name : String) : Option Backend := [webDriver, selenium].find? (·.name == name)

/-- The protocol of a text, in any ASCII case. -/
def ofText (text : String) : Except Failure Backend :=
  let lower := text.map Char.toLower
  match ofName? lower with
  | some backend => .ok backend
  | none => .error (.config ("unknown backend '" ++ lower ++ "'"))

end Backend

/-- Where a server is looked for unless told otherwise. -/
def defaultServer : String := "http://localhost:4444"

/-- How to reach a browser. -/
structure Config where
  backend : Backend := .webDriver
  /-- The application under test. -/
  serverUrl : Option String := none
  /-- What relative URLs are resolved against, where that is not the application's URL. -/
  baseUrl : Option String := none
  /-- The server of either protocol. -/
  seleniumServer : String := defaultServer
  browser : String := WebDriver.defaultBrowserName
  /-- The timeout of a session, in milliseconds. -/
  defaultTimeout : Nat := defaultTimeout
  /-- The pause between two looks, in milliseconds. -/
  pollFrequency : Nat := defaultFrequency
  flavor : AjaxFlavor := .jQuery
  diagnostics : Diagnostics := {}
  /-- What else is asked of a browser behind a hub. -/
  capabilities : List (String × Json) := []
deriving DecidableEq, Repr, Inhabited

namespace Config

/-! ## Documents -/

/-- Reads a configuration from a document; what is not given takes its default. -/
def ofNode? {ν : Type} [Node ν] (node : ν) : Option Config := do
  let fields ← Node.fields? node
  guard (fields.fits 10)
  let initial : Config := {}
  return {
    backend := ← fields.orDefault initial.backend (fun node => do Backend.ofName? (← Node.choice? node)) 0 ["backend"]
    serverUrl := ← fields.optional Node.text? 1 ["server_url"]
    baseUrl := ← fields.optional Node.text? 2 ["base_url"]
    seleniumServer :=
      ← fields.orDefault initial.seleniumServer Node.text? 3 ["selenium_server", "selenium-server"]
    browser := ← fields.orDefault initial.browser Node.text? 4 ["browser"]
    defaultTimeout := ← fields.orDefault initial.defaultTimeout Node.natural? 5 ["default_timeout_ms"]
    pollFrequency := ← fields.orDefault initial.pollFrequency Node.natural? 6 ["poll_frequency_ms"]
    flavor :=
      ← fields.orDefault initial.flavor (fun node => do AjaxFlavor.ofName? (← Node.choice? node)) 7 ["ajax_flavor"]
    diagnostics := ← fields.orDefault initial.diagnostics Diagnostics.ofNode? 8 ["diagnostics"]
    capabilities := ← fields.orDefault initial.capabilities Node.members? 9 ["capabilities"] }

/-- Reads a configuration from a JSON value. -/
def ofJson (value : Json) : Except Failure Config :=
  match ofNode? value with
  | some config => .ok config
  | none => .error .malformedJson

/-- Reads a configuration from a YAML text. -/
def ofYaml (text : String) : Except Failure Config :=
  match (Yaml.parse? text).bind ofNode? with
  | some config => .ok config
  | none => .error .malformedYaml

/-- Reads a configuration from the bytes of a YAML file, if there is a file. -/
def ofFile (content : Option ByteArray) : Except Failure Config :=
  match content.bind String.fromUTF8? with
  | some text => ofYaml text
  | none => .error .unreadableFile

/-- The value of an optional text. -/
def textOrNull (text : Option String) : Json := (text.map Json.string).getD .null

/-- A configuration as a document. -/
def json (config : Config) : Json :=
  .ofMembers [
    ("backend", .string config.backend.name),
    ("server_url", textOrNull config.serverUrl),
    ("base_url", textOrNull config.baseUrl),
    ("selenium_server", .string config.seleniumServer),
    ("browser", .string config.browser),
    ("default_timeout_ms", .natural config.defaultTimeout),
    ("poll_frequency_ms", .natural config.pollFrequency),
    ("ajax_flavor", .string config.flavor.name),
    ("diagnostics", config.diagnostics.json),
    ("capabilities", .object config.capabilities)]

/-! ## Overrides -/

/-- A text with underscores for dashes. -/
def withUnderscores (key : String) : String := key.map fun c => if c = '-' then '_' else c

/-- The milliseconds of an override's value. -/
def milliseconds (key value : String) : Except Failure Nat :=
  match Text.readUnsigned? value.toList with
  | some ms => .ok ms
  | none => .error (.config ("'" ++ key ++ "' expects milliseconds, got '" ++ value ++ "'"))

/-- The configuration with the value of one key changed. -/
def override (config : Config) (key value : String) : Except Failure Config :=
  let name := withUnderscores key
  if name = "backend" then do return { config with backend := ← Backend.ofText value }
  else if name = "server_url" then .ok { config with serverUrl := some value }
  else if name = "base_url" then .ok { config with baseUrl := some value }
  else if name = "selenium_server" then .ok { config with seleniumServer := value }
  else if name = "browser" then .ok { config with browser := value }
  else if name = "default_timeout_ms" then do return { config with defaultTimeout := ← milliseconds key value }
  else if name = "poll_frequency_ms" then do return { config with pollFrequency := ← milliseconds key value }
  else if name = "ajax_flavor" then do return { config with flavor := ← AjaxFlavor.ofText value }
  else .error (.config ("unknown configuration key '" ++ key ++ "'"))

/-- The configuration changed by entries one after another; empty values do not count. -/
def overrideAll : Config → List (String × String) → Except Failure Config
  | config, [] => .ok config
  | config, (key, value) :: more =>
    if value = "" then overrideAll config more
    else do
      let config ← config.override key value
      overrideAll config more

/-- The configuration changed by overrides, in the order of their keys. -/
def withOverrides (config : Config) (overrides : List (String × String)) : Except Failure Config :=
  config.overrideAll (Keyed.ofEntries overrides)

/-! ## Use -/

/-- The required keys that have no value. -/
def missingKeys (config : Config) : List String :=
  (if config.serverUrl.all (· == "") then ["server_url"] else []) ++
    (if config.seleniumServer = "" then ["selenium_server"] else [])

/-- Whether all required keys have a value. -/
def validate (config : Config) : Except Failure Unit :=
  match config.missingKeys with
  | [] => .ok ()
  | missing => .error (.config ("Configuration is missing required keys " ++ ", ".intercalate missing))

/-- What relative URLs are resolved against. -/
def effectiveBaseUrl (config : Config) : Option String := config.baseUrl.or config.serverUrl

/-- How waits poll. -/
def pollOptions (config : Config) : PollOptions :=
  { frequency := config.pollFrequency, diagnostics := config.diagnostics }

/-- What is asked of a browser behind a hub. -/
def desiredCapabilities (config : Config) : List (String × Json) :=
  Json.withDefault WebDriver.browserNameKey (.string config.browser) config.capabilities

/-- The browser an RC server launches. -/
def launchedBrowser (config : Config) : String :=
  match config.browser.toList with
  | '*' :: _ => config.browser
  | _ => "*" ++ config.browser

/-- A client of a hub and the settings it is used with. -/
def webDriver {τ : Type} (config : Config) (server : τ) : Except Failure (WebDriver.Settings × WebDriver.Client τ) := do
  config.validate
  return (
    { baseUrl := config.effectiveBaseUrl, flavor := config.flavor, poll := config.pollOptions },
    { WebDriver.Client.ofServerUrl server config.seleniumServer with
      capabilities := config.desiredCapabilities
      defaultTimeout := config.defaultTimeout })

/-- A client of an RC server and the settings it is used with. -/
def seleniumRc {τ : Type} (config : Config) (server : τ) :
    Except Failure (SeleniumRc.Settings × SeleniumRc.Client τ) := do
  config.validate
  return (
    { baseUrl := config.effectiveBaseUrl, flavor := config.flavor, diagnostics := config.diagnostics },
    { SeleniumRc.Client.ofServerUrl server config.seleniumServer config.launchedBrowser with
      browserUrl := config.effectiveBaseUrl.getD ""
      defaultTimeout := config.defaultTimeout })

end Config

end BrowserWait
