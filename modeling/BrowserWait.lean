import BrowserWait.Decimal.Binary64
import BrowserWait.Decimal.Shortest
import BrowserWait.Description.Basic
import BrowserWait.Description.Clause
import BrowserWait.Description.Exchange
import BrowserWait.Description.Failure
import BrowserWait.Description.Page
import BrowserWait.Description.Report
import BrowserWait.Document.Node
import BrowserWait.Element.Finder
import BrowserWait.Element.Locator
import BrowserWait.Failure.Basic
import BrowserWait.Failure.Status
import BrowserWait.Json.Basic
import BrowserWait.Json.Numeral
import BrowserWait.Json.Printer
import BrowserWait.Json.Reader
import BrowserWait.Page.Browser
import BrowserWait.Page.Model
import BrowserWait.Page.Script
import BrowserWait.Page.Table
import BrowserWait.SeleniumRc.Answer
import BrowserWait.SeleniumRc.Browser
import BrowserWait.SeleniumRc.Client
import BrowserWait.SeleniumRc.Command
import BrowserWait.Session.Cookie
import BrowserWait.Session.Http
import BrowserWait.Session.Timeout
import BrowserWait.Session.Url
import BrowserWait.Setup.Config
import BrowserWait.Setup.Diagnostics
import BrowserWait.Text.Blank
import BrowserWait.Text.Keyed
import BrowserWait.Text.Numeral
import BrowserWait.Text.Quoted
import BrowserWait.Text.Split
import BrowserWait.Wait.Clause
import BrowserWait.Wait.Condition
import BrowserWait.Wait.Directive
import BrowserWait.Wait.Expression
import BrowserWait.Wait.Native
import BrowserWait.Wait.Poll
import BrowserWait.Wait.Script
import BrowserWait.WebDriver.Answer
import BrowserWait.WebDriver.Browser
import BrowserWait.WebDriver.Client
import BrowserWait.WebDriver.Command
import BrowserWait.Yaml.Basic
import BrowserWait.Yaml.Cursor
import BrowserWait.Yaml.Reader
import BrowserWait.Yaml.Scalar
import BrowserWait.Yaml.Token
import BrowserWait.Proofs.Element.LocatorText
import BrowserWait.Proofs.Element.FinderValue
import BrowserWait.Proofs.Wait.Building
import BrowserWait.Proofs.Wait.Agreement
import BrowserWait.Proofs.Poll.Attempt
import BrowserWait.Proofs.Poll.Schedule
import BrowserWait.Proofs.Wait.Transience
import BrowserWait.Proofs.Wait.Inheritance
import BrowserWait.Proofs.Session.Transcript
import BrowserWait.Proofs.Session.Preservation
import BrowserWait.Proofs.Session.Client
import BrowserWait.Proofs.Session.Refusal
import BrowserWait.Proofs.Session.Operation
import BrowserWait.Proofs.WebDriver.Session
import BrowserWait.Proofs.WebDriver.Operation
import BrowserWait.Proofs.WebDriver.Routing
import BrowserWait.Proofs.WebDriver.Classification
import BrowserWait.Proofs.WebDriver.ElementWait
import BrowserWait.Proofs.SeleniumRc.Session
import BrowserWait.Proofs.SeleniumRc.Operation
import BrowserWait.Proofs.Session.Scope
import BrowserWait.Proofs.SeleniumRc.Course
import BrowserWait.Proofs.SeleniumRc.ServerWait
import BrowserWait.Proofs.SeleniumRc.WaitTime
import BrowserWait.Proofs.Session.Guarantees
import BrowserWait.Proofs.SeleniumRc.Form
import BrowserWait.Proofs.Session.Nesting
import BrowserWait.Proofs.Poll.Cancellation
import BrowserWait.Proofs.Session.Restoration
import BrowserWait.Proofs.Wait.LateElements
import BrowserWait.Proofs.Wait.ShortCircuit
import BrowserWait.Proofs.Wait.ConditionText
import BrowserWait.Proofs.Wait.Literals
import BrowserWait.Proofs.Wait.DirectiveValue
import BrowserWait.Proofs.Wait.Deferral
import BrowserWait.Proofs.Wait.ConsoleLog
import BrowserWait.Proofs.Session.Resolution
import BrowserWait.Proofs.Session.FailedExchange
import BrowserWait.Proofs.Text.ByteOrder
import BrowserWait.Proofs.Text.Spelling
import BrowserWait.Proofs.Setup.Overrides
import BrowserWait.Proofs.Session.CookieHeader
import BrowserWait.Proofs.WebDriver.Click
import BrowserWait.Proofs.SeleniumRc.Launch
import BrowserWait.Proofs.SeleniumRc.AgentName
import BrowserWait.Proofs.Page.ScriptValue
import BrowserWait.Proofs.Text.Quotation
import BrowserWait.Proofs.Wait.Growth
