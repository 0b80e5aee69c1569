import BrowserWait.Session.Http
import BrowserWait.Text.Blank
import BrowserWait.Text.Split

/-!
# Selenium RC answers

What an RC response means. A response is a success exactly when its HTTP status is one and its body is `OK`, alone or
followed by a comma and data; everything else is an error of the server, a timeout when the body says so.
-/

namespace BrowserWait.SeleniumRc

/-- The body of a success without data. -/
def okText : List Char := ['O', 'K']

/-- What an expired wait's body contains. -/
def timedOutText : List Char := "Timed out".toList

/-- The data of a success. -/
def data? (body : List Char) : Option (List Char) :=
  if body = okText then some [] else Text.after? (okText ++ [',']) body

/-- The failure of a response that is no success. -/
def answerFailure (body : List Char) : Failure :=
  .ofAnswer (if Text.contains timedOutText body then .timeout else .unknownError)
    (some (String.ofList (Text.trim body)))

/-- The data in a response. -/
def classify (response : Response) : Except Failure String :=
  let body := response.body.toList
  match if response.isSuccess then data? body else none with
  | some data => .ok (String.ofList data)
  | none => .error (answerFailure body)

theorem data?_eq_some_iff {body data : List Char} :
    data? body = some data ↔ body = okText ∧ data = [] ∨ body = okText ++ [','] ++ data := by
  rw [data?]
  by_cases bare : body = okText
  · simp [bare, eq_comm]
  · simp [bare, Text.after?_eq_some_iff]

/-- A response is a success when its HTTP status is one and its body is `OK`, alone or with a comma and data. -/
theorem classify_eq_ok_iff {response : Response} {data : String} :
    classify response = .ok data ↔
      response.isSuccess = true ∧ (response.body = "OK" ∧ data = "" ∨ response.body = "OK," ++ data) := by
  have texts : data? response.body.toList = some data.toList ↔
      response.body = "OK" ∧ data = "" ∨ response.body = "OK," ++ data := by
    rw [data?_eq_some_iff, ← String.toList_inj, ← String.toList_inj, ← String.toList_inj]
    simp [okText]
  rw [← texts, classify]
  cases response.isSuccess with
  | false => simp
  | true =>
    cases found : data? response.body.toList with
    | none => simp
    | some rest => simp [← String.toList_inj]

/-- The failure of a wait on the server: an error of the server names what was waited for and how long. -/
def waitFailed (condition : String) (ms : Nat) : Failure → Failure
  | .remote _ message =>
    .assertion
      ("Selenium encountered an error: " ++ message ++ " (waited " ++ toString ms ++ "ms for " ++ condition ++ ")")
  | failure => failure

end BrowserWait.SeleniumRc
