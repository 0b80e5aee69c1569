import BrowserWait.Json.Reader
import BrowserWait.Session.Http
import BrowserWait.Text.Blank

/-!
# JSONWire answers

What a response means. A status that is a natural number decides: zero is success and any other code an error of its
kind, whatever the HTTP status. Without such a status the HTTP status decides. An empty body is an answer of null, and a
body that is no JSON is never one.
-/

namespace BrowserWait.WebDriver

/-- The text a server gives for an error: a message, or a state where there is no message, or the value itself. -/
def errorText? (answer : Json) : Option String := do
  let value ← answer.member? "value"
  let member := (value.member? "message").or (value.member? "state")
  (member.bind Json.text?).or value.text?

/-- The failure of an answer with an error. -/
def answerFailure (status : Status) (answer : Json) : Failure := .ofAnswer status (errorText? answer)

/-- The failure of a request that the server could not make sense of. -/
def refused (text : String) : Failure := .invalidResponse ("Invalid Request: " ++ text)

/-- The answer in a JSON value, given whether the HTTP status is one of success. -/
def classifyValue (success : Bool) (answer : Json) : Except Failure Json :=
  match (answer.member? "status").bind Json.natural? with
  | some 0 => .ok answer
  | some code => .error (answerFailure (.ofCode code) answer)
  | none => if success then .ok answer else .error (answerFailure .unknownError answer)

/-- The answer in a response. -/
def classify (response : Response) : Except Failure Json :=
  let body := Text.trim response.body.toList
  if body.isEmpty then
    if response.isSuccess then .ok .null else .error (refused response.body)
  else
    match Json.ofChars? body with
    | some answer => classifyValue response.isSuccess answer
    | none =>
      .error
        (if response.isSuccess then .invalidResponse ("expected JSON, got: " ++ String.ofList body)
        else refused response.body)

end BrowserWait.WebDriver
