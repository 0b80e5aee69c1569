import BrowserWait.Json.Printer
import BrowserWait.Page.Browser

/-!
# HTTP exchanges

Requests, responses and the servers that answer them. A server is any state that can answer a request or fail to; a
recorded server also keeps every exchange, and a scripted one answers from a queue.
-/

namespace BrowserWait

/-- The verb of a request. -/
inductive HttpMethod where
  | get
  | post
  | delete
deriving DecidableEq, Repr

namespace HttpMethod

/-- The verb as it is sent. -/
def text : HttpMethod → String
  | get => "GET"
  | post => "POST"
  | delete => "DELETE"

/-- The method of a verb. -/
def ofText? (text : String) : Option HttpMethod := [get, post, delete].find? (·.text == text)

end HttpMethod

/-- What a request carries. -/
inductive RequestBody where
  | empty
  | json (value : Json)
  | form (fields : List (String × String))
deriving DecidableEq, Repr

/-- A request to a server. -/
structure Request where
  method : HttpMethod
  url : String
  body : RequestBody := .empty
deriving DecidableEq, Repr

namespace Request

/-- The value of a field, if the request carries a form that has it. -/
def formField? (request : Request) (key : String) : Option String :=
  match request.body with
  | .form fields => fields.lookup key
  | .empty | .json _ => none

end Request

/-- A server's response. -/
structure Response where
  status : Nat
  body : String
deriving DecidableEq, Repr

namespace Response

/-- A successful response with a text. -/
def ofText (text : String) : Response := ⟨200, text⟩

/-- Whether the status is below 300. -/
def isSuccess (response : Response) : Bool := response.status < 300

end Response

/-- A state that answers requests; an answer with an error status is a response, not a failure. -/
class Server (τ : Type) where
  send : Request → Action τ Response

/-- The time to wait for a connection, in seconds. -/
def connectTimeoutSeconds : Nat := 30

/-! ## Recorded servers -/

/-- A request with what came of it. -/
structure Exchange where
  request : Request
  outcome : Except Failure Response
deriving DecidableEq, Repr

/-- A server with the exchanges made so far. -/
structure Recorded (τ : Type) where
  server : τ
  exchanges : List Exchange := []

namespace Recorded

variable {τ : Type} [Server τ]

/-- Sends a request and keeps the exchange. -/
def send (request : Request) (recorded : Recorded τ) : Except Failure Response × Recorded τ :=
  let (outcome, server) := (Server.send request).perform recorded.server
  (outcome, ⟨server, recorded.exchanges ++ [⟨request, outcome⟩]⟩)

instance : Server (Recorded τ) where
  send request := .ofPerform (send request)

/-- The requests sent so far. -/
def requests (recorded : Recorded τ) : List Request := recorded.exchanges.map (·.request)

end Recorded

/-! ## Scripted servers -/

/-- A server that answers from a queue, and with its last resort once the queue is empty. -/
structure ScriptedServer where
  queued : List Response := []
  fallback : Option Response := none
deriving DecidableEq, Repr, Inhabited

namespace ScriptedServer

/-- The server with one response more in its queue. -/
def queue (response : Response) (server : ScriptedServer) : ScriptedServer :=
  { server with queued := server.queued ++ [response] }

/-- Answers a request; without a response left the exchange fails. -/
def send (request : Request) (server : ScriptedServer) : Except Failure Response × ScriptedServer :=
  match server.queued with
  | response :: more => (.ok response, { server with queued := more })
  | [] =>
    match server.fallback with
    | some response => (.ok response, server)
    | none =>
      (.error (.transport ("no scripted response for " ++ request.method.text ++ " " ++ request.url)), server)

instance : Server ScriptedServer where
  send request := .ofPerform (send request)

end ScriptedServer

end BrowserWait
