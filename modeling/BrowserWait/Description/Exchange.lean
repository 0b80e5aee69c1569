import BrowserWait.Description.Failure
import BrowserWait.Session.Http

/-!
# Described exchanges

The responses a scripted server is given, and the requests that were sent to it. A text alone is a successful
response; a request with both a form and a JSON body carries the form.
-/

namespace BrowserWait

namespace Description

instance : Described Response where
  read?
    | .string body => some (.ofText body)
    | spec => do
      let status ← fieldOr 200 spec "status"
      match spec.member? "json" with
      | some value => return ⟨status, value.compact⟩
      | none => return ⟨status, ← text spec "body"⟩

instance : Described Request where
  read? spec := do
    let form : Option (List (String × String)) ← field spec "form"
    return {
      method := ← HttpMethod.ofText? (← text spec "method")
      url := ← text spec "url"
      body := match form, spec.member? "json" with
        | some fields, _ => .form fields
        | none, some value => .json value
        | none, none => .empty }

end Description

namespace Report

instance : Reported Request where
  json request :=
    .ofMembers ([("method", json request.method.text), ("url", json request.url)] ++
      match request.body with
      | .empty => []
      | .json value => [("json", value)]
      | .form fields => [("form", json fields)])

instance : Reported Response where
  json response := .ofMembers [
    ("status", json response.status), ("body", json response.body), ("success", json response.isSuccess)]

end Report

end BrowserWait
