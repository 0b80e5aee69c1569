import BrowserWait.Description.Basic
import BrowserWait.Description.Report
import BrowserWait.Failure.Basic

/-!
# Described failures

A failure is reported by its name, its wording and, for a server's error, its kind; the failures whose wording is up
to the reader of a document are reported without it. A description of a failure gives its name and its text.
-/

namespace BrowserWait

namespace Failure

/-- The name of a failure in reports. -/
def name : Failure → String
  | remote .. => "Remote"
  | transport _ => "Transport"
  | invalidResponse _ => "InvalidResponse"
  | unknownElement _ => "UnknownPageElement"
  | invalidLocator _ => "InvalidLocator"
  | unsupportedPredicate _ => "UnsupportedPredicate"
  | invalidCondition _ => "InvalidCondition"
  | unknownDirective _ => "UnknownDirective"
  | noSession => "NoSession"
  | config _ => "Config"
  | assertion _ => "AssertionFailed"
  | interrupted => "Interrupted"
  | unreadableFile => "Io"
  | malformedJson => "Json"
  | malformedYaml => "Yaml"

/-- The failures that no answer of a server stands behind, with a text where there is room for one. -/
def unanswered (text : String) : List Failure :=
  [transport text, invalidResponse text, unknownElement text, invalidLocator text, unsupportedPredicate "selenium",
    invalidCondition text, unknownDirective text, noSession, config text, assertion text, interrupted,
    unreadableFile, malformedJson, malformedYaml]

/-- The wording a report gives. -/
def reportedMessage? : Failure → Option String
  | unreadableFile | malformedJson | malformedYaml => none
  | failure => some failure.message

end Failure

namespace Description

instance : Described Status := ⟨fun value => value.text?.bind Status.ofName?⟩

instance : Described Failure where
  read? spec := do
    let name ← text spec "error"
    if name = "Remote" then return .ofAnswer (← need spec "kind") (← field spec "message")
    else (Failure.unanswered (← text spec "message")).find? (·.name == name)

end Description

namespace Report

instance : Reported Failure where
  json failure :=
    .ofMembers ([("error", json failure.name)] ++
      failure.reportedMessage?.toList.map (fun message => ("message", json message)) ++
      failure.status?.toList.map (fun status => ("kind", json status.name)))

instance {α : Type} [Reported α] : Reported (Except Failure α) where
  json
    | .ok value => json value
    | .error failure => json failure

end Report

end BrowserWait
