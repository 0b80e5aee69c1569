import BrowserWait.Proofs.Session.Client
import BrowserWait.Proofs.Session.Preservation
import BrowserWait.WebDriver.Client

/-!
# JSONWire sessions and their transcript

How JSONWire exchanges speak of sessions, and that a client of a recorded hub keeps track of them. A command goes to the
URL of the session at hand or to a path below it; the client makes one exchange at a time and is lawful.
-/

namespace BrowserWait.WebDriver

/-! ## Reading exchanges -/

/-- The URL of a session. -/
def sessionUrl (hub session : String) : String := hub ++ "/session/" ++ session

/-- What the server answered to the request of an exchange, or why there is no answer. -/
def answered (exchange : Exchange) : Except Failure Json := exchange.outcome >>= classify

/-- Whether the server acknowledged the request of an exchange. -/
def acknowledges (exchange : Exchange) : Bool := (answered exchange).isOk

theorem acknowledges_of_ok {exchange : Exchange} {answer : Json} (told : answered exchange = .ok answer) :
    acknowledges exchange = true := by
  rw [acknowledges, told]
  rfl

theorem acknowledges_of_error {exchange : Exchange} {failure : Failure} (told : answered exchange = .error failure) :
    acknowledges exchange = false := by
  rw [acknowledges, told]
  rfl

/-- The session id in an answer. -/
def sessionId? (answer : Json) : Option String := (answer.member? "sessionId").bind Json.text?

/-- The number of milliseconds in a request's body. -/
def milliseconds? (request : Request) : Option Nat :=
  match request.body with
  | .json value => (value.member? "ms").bind Json.natural?
  | .empty | .form _ => none

/-- How the exchanges with a hub speak of sessions. -/
def dialect (hub : String) : Dialect where
  asks request := request.method == .post && request.url == hub ++ "/session"
  begins? exchange :=
    if exchange.request.method = .post ∧ exchange.request.url = hub ++ "/session" then
      (answered exchange).toOption.bind sessionId?
    else none
  ends session exchange :=
    exchange.request.method == .delete && exchange.request.url == sessionUrl hub session && acknowledges exchange
  timeout? session exchange :=
    if exchange.request.method = .post ∧ exchange.request.url = sessionUrl hub session ++ "/timeouts" ∧
        acknowledges exchange = true then
      milliseconds? exchange.request
    else none
  Addresses session request :=
    request.url = sessionUrl hub session ∨ ∃ path, request.url = sessionUrl hub session ++ "/" ++ path

/-! ## Requests -/

namespace Command

/-- Whether a command neither begins nor ends a session, nor sets its timeout. -/
def isOrdinary : Command → Bool
  | newSession _ | quit | setTimeouts .. => false
  | _ => true

/-- The timeout a command sets. -/
def timeoutSet? : Command → Option Nat
  | setTimeouts _ ms => some ms
  | _ => none

/-- The request of a command that is addressed to a session. -/
def inSession (hub session : String) (command : Command) : Request where
  method := command.method
  url := sessionUrl hub session ++ command.pathInSession
  body :=
    match command.body? with
    | some value => .json value
    | none => .empty

/-- The request for a new session. -/
def ofNewSession (hub : String) (wanted : List (String × Json)) : Request where
  method := .post
  url := hub ++ "/session"
  body := .json (.ofMembers [("desiredCapabilities", .object wanted)])

theorem requiresSession_of_isOrdinary {command : Command} (ordinary : command.isOrdinary = true) :
    command.requiresSession = true := by
  cases command with
  | newSession wanted => cases ordinary
  | _ => rfl

theorem request_some {command : Command} (requires : command.requiresSession = true) (hub session : String) :
    command.request hub (some session) = .ok (command.inSession hub session) := by
  have url : hub ++ "/" ++ (sessionsPath ++ "/" ++ session ++ command.pathInSession) =
      sessionUrl hub session ++ command.pathInSession := by
    simp only [sessionUrl, sessionsPath, String.append_assoc]
    rfl
  rw [request, path, requires]
  exact congrArg (fun url => Except.ok { command.inSession hub session with url }) url

theorem request_none {command : Command} (requires : command.requiresSession = true) (hub : String) :
    command.request hub none = .error .noSession := by
  rw [request, path, requires]
  rfl

theorem request_newSession (wanted : List (String × Json)) (hub : String) (session : Option String) :
    (newSession wanted).request hub session = .ok (ofNewSession hub wanted) := by
  have url : hub ++ "/" ++ sessionsPath = hub ++ "/session" := by
    simp only [sessionsPath, String.append_assoc]
    rfl
  exact congrArg (fun url => Except.ok { ofNewSession hub wanted with url }) url

/-- What follows the URL of the session is nothing, or a path below it. -/
theorem pathInSession_cases (command : Command) :
    command.pathInSession = "" ∨ ∃ rest, command.pathInSession = "/" ++ rest := by
  cases command with
  | newSession _ | quit | capabilities => exact .inl rfl
  | navigate _ | currentUrl => exact .inr ⟨"url", rfl⟩
  | pageSource => exact .inr ⟨"source", rfl⟩
  | execute _ _ => exact .inr ⟨"execute", rfl⟩
  | findElement _ _ => exact .inr ⟨"element", rfl⟩
  | elementDisplayed id =>
    exact .inr ⟨"element/" ++ id.text ++ "/displayed", by simp [pathInSession, ← String.append_assoc]⟩
  | elementAttribute id name =>
    exact .inr ⟨"element/" ++ id.text ++ "/attribute/" ++ name, by simp [pathInSession, ← String.append_assoc]⟩
  | clickElement id => exact .inr ⟨"element/" ++ id.text ++ "/click", by simp [pathInSession, ← String.append_assoc]⟩
  | setTimeouts _ _ => exact .inr ⟨"timeouts", rfl⟩
  | getCookies | addCookie _ | deleteAllCookies => exact .inr ⟨"cookie", rfl⟩
  | deleteCookie name => exact .inr ⟨"cookie/" ++ name, by simp [pathInSession, ← String.append_assoc]⟩

theorem eq_setTimeouts {command : Command} {ms : Nat} (carried : command.timeoutSet? = some ms) :
    ∃ kind, command = setTimeouts kind ms := by
  cases command with
  | setTimeouts kind _ =>
    cases carried
    exact ⟨kind, rfl⟩
  | _ => cases carried

theorem pathInSession_ne {command : Command} (carried : command.timeoutSet? = none)
    (posted : command.method = .post) : command.pathInSession ≠ "/timeouts" := by
  intro same
  replace same := congrArg String.toList same
  cases command <;> simp [pathInSession, method, timeoutSet?] at same posted carried

end Command

/-! ## What requests do to the standing -/

section

variable {hub session : String} {command : Command} {exchange : Exchange} {timeout : Option Nat}

theorem url_ne_newSession (hub session rest : String) : sessionUrl hub session ++ rest ≠ hub ++ "/session" := by
  intro same
  rw [sessionUrl, String.append_assoc, String.append_assoc, String.append_right_inj] at same
  replace same := congrArg String.toList same
  simp at same

theorem addresses_inSession (hub session : String) (command : Command) :
    (dialect hub).Addresses session (command.inSession hub session) := by
  rcases command.pathInSession_cases with whole | ⟨rest, below⟩
  · refine .inl ?_
    rw [Command.inSession, whole, String.append_empty]
  · refine .inr ⟨rest, ?_⟩
    rw [Command.inSession, below, String.append_assoc]

theorem begins?_inSession (sent : exchange.request = command.inSession hub session) :
    (dialect hub).begins? exchange = none := by
  refine if_neg ?_
  rintro ⟨_, url⟩
  rw [sent] at url
  exact url_ne_newSession _ _ _ url

/-- Of the requests in a session only the one of `quit` ends it. -/
theorem ends_inSession (sent : exchange.request = command.inSession hub session) :
    (dialect hub).ends session exchange = (decide (command = .quit) && acknowledges exchange) := by
  simp only [dialect, sent, Command.inSession]
  cases command <;> simp [Command.method, Command.pathInSession]

/-- Of the requests in a session only those of `setTimeouts` put a timeout in force. -/
theorem timeout?_inSession (sent : exchange.request = command.inSession hub session) :
    (dialect hub).timeout? session exchange = if acknowledges exchange then command.timeoutSet? else none := by
  cases carried : command.timeoutSet? with
  | none =>
    rw [ite_self]
    refine if_neg ?_
    rintro ⟨post, url, _⟩
    rw [sent] at post url
    exact Command.pathInSession_ne carried post ((String.append_right_inj _).mp url)
  | some ms =>
    obtain ⟨kind, rfl⟩ := Command.eq_setTimeouts carried
    have posted : exchange.request.method = .post := by
      rw [sent]
      rfl
    have url : exchange.request.url = sessionUrl hub session ++ "/timeouts" := by
      rw [sent]
      rfl
    have number : milliseconds? exchange.request = some ms := by
      rw [sent]
      rfl
    simp [dialect, posted, url, number]

/-- What a request in the session does to the session at hand and its timeout. -/
theorem after_inSession (sent : exchange.request = command.inSession hub session) (timeout : Option Nat) :
    (dialect hub).after ⟨some session, timeout⟩ exchange =
      if acknowledges exchange then
        if command = .quit then {} else ⟨some session, command.timeoutSet?.or timeout⟩
      else ⟨some session, timeout⟩ := by
  rw [Dialect.after_of_reply timeout (begins?_inSession sent) (ends_inSession sent) (timeout?_inSession sent)]
  simp only [decide_eq_true_eq]

theorem after_ordinary (ordinary : command.isOrdinary = true)
    (sent : exchange.request = command.inSession hub session) (timeout : Option Nat) :
    (dialect hub).after ⟨some session, timeout⟩ exchange = ⟨some session, timeout⟩ := by
  have stays : command ≠ .quit := by
    rintro rfl
    cases ordinary
  have sets : command.timeoutSet? = none := by
    cases command with
    | setTimeouts kind ms => cases ordinary
    | _ => rfl
  rw [after_inSession sent, if_neg stays, sets, Option.none_or, ite_self]

theorem begins?_ofNewSession {wanted : List (String × Json)}
    (sent : exchange.request = Command.ofNewSession hub wanted) :
    (dialect hub).begins? exchange = (answered exchange).toOption.bind sessionId? :=
  if_pos ⟨congrArg Request.method sent, congrArg Request.url sent⟩

/-- A request for a new session that gets none changes nothing. -/
theorem after_ofNewSession {wanted : List (String × Json)} (sent : exchange.request = Command.ofNewSession hub wanted)
    (begins : (dialect hub).begins? exchange = none) (standing : Dialect.Standing) :
    (dialect hub).after standing exchange = standing := by
  refine Dialect.after_of_silent begins ?_ ?_ standing
  · intro session
    simp [dialect, sent, Command.ofNewSession]
  · intro session
    refine if_neg ?_
    rintro ⟨_, url, _⟩
    rw [sent] at url
    exact url_ne_newSession _ _ _ url.symm

end

/-! ## Clients of a recorded hub -/

namespace Client

variable {τ : Type} [Server τ]

/-- The exchange a client makes with a request. -/
def exchanged (request : Request) (client : Client (Recorded τ)) : Exchange :=
  ⟨request, (Recorded.send request client.server).1⟩

/-- A client that made the exchange. -/
def sent (request : Request) (client : Client (Recorded τ)) : Client (Recorded τ) :=
  { client with server := (Recorded.send request client.server).2 }

instance : SessionClient (Client (Recorded τ)) where
  dialect client := dialect client.hub
  log client := client.server.exchanges
  session := session
  start := newSession
  stop := quit

open SessionClient TimedSession

theorem perform_send (request : Request) (client : Client (Recorded τ)) :
    (send request).perform client = ((client.exchanged request).outcome, client.sent request) := rfl

theorem exchange_of_request {command : Command} {client : Client (Recorded τ)} {request : Request}
    (addressed : command.request client.hub client.session = .ok request) :
    (exchange command).perform client = (answered (client.exchanged request), client.sent request) := by
  rw [exchange, Action.perform_bind, Action.perform_get]
  dsimp only
  rw [Action.perform_bind, addressed, Action.perform_ofExcept]
  dsimp only
  rw [Action.perform_bind, perform_send, answered]
  cases (client.exchanged request).outcome with
  | ok response => rfl
  | error failure => rfl

theorem exchange_of_failure {command : Command} {client : Client (Recorded τ)} {failure : Failure}
    (refused : command.request client.hub client.session = .error failure) :
    (exchange command).perform client = (.error failure, client) := by
  rw [exchange, Action.perform_bind, Action.perform_get]
  dsimp only
  rw [Action.perform_bind, refused, Action.perform_ofExcept]

/-- A command for a session is refused without one, and else sent to it and answered or not. -/
theorem exchange_cases (command : Command) (requires : command.requiresSession = true) (client : Client (Recorded τ)) :
    client.session = none ∧ (exchange command).perform client = (.error .noSession, client) ∨
      ∃ session, client.session = some session ∧
        let request := command.inSession client.hub session
        ((∃ failure, answered (client.exchanged request) = .error failure ∧
            (exchange command).perform client = (.error failure, client.sent request)) ∨
          ∃ answer, answered (client.exchanged request) = .ok answer ∧
            (exchange command).perform client = (.ok answer, client.sent request)) := by
  cases atHand : client.session with
  | none =>
    refine .inl ⟨rfl, exchange_of_failure ?_⟩
    rw [atHand]
    exact Command.request_none requires client.hub
  | some session =>
    refine .inr ⟨session, rfl, ?_⟩
    have addressed : command.request client.hub client.session = .ok (command.inSession client.hub session) :=
      atHand ▸ Command.request_some requires client.hub session
    have performed := exchange_of_request addressed
    dsimp only
    cases told : answered (client.exchanged (command.inSession client.hub session)) with
    | error failure => exact .inl ⟨failure, rfl, told ▸ performed⟩
    | ok answer => exact .inr ⟨answer, rfl, told ▸ performed⟩

theorem call_perform (command : Command) (client : Client (Recorded τ)) :
    (call command).perform client =
      match (exchange command).perform client with
      | (.ok answer, client) => (.ok ((answer.member? "value").getD .null), client)
      | (.error failure, client) => (.error failure, client) := by
  rw [call, Action.perform_bind]
  rcases (exchange command).perform client with ⟨outcome, after⟩
  cases outcome with
  | ok answer => rfl
  | error failure => rfl

theorem run_perform (command : Command) (client : Client (Recorded τ)) :
    (run command).perform client =
      match (exchange command).perform client with
      | (.ok _, client) => (.ok (), client)
      | (.error failure, client) => (.error failure, client) := by
  rw [run, Action.perform_bind, call_perform]
  rcases (exchange command).perform client with ⟨outcome, after⟩
  cases outcome with
  | ok answer => rfl
  | error failure => rfl

/-! ### Exchanges of a client -/

/-- A request in the session is an exchange that leaves the client with what the dialect makes of its standing. -/
theorem exchanged_inSession {client : Client (Recorded τ)} {session : String} (atHand : client.session = some session)
    {command : Command} (left : Dialect.Standing)
    (leaves : (dialect client.hub).after ⟨client.session, client.timeout⟩
      (client.exchanged (command.inSession client.hub session)) = left) :
    Exchanged client (client.exchanged (command.inSession client.hub session))
      { client.sent (command.inSession client.hub session) with session := left.session, timeout := left.timeout } where
  dialect_eq := rfl
  log_eq := rfl
  belongs := .inr ⟨session, atHand, addresses_inSession _ _ _⟩
  standing_eq := leaves.symm

/-- A request that the server does not acknowledge changes nothing. -/
theorem exchanged_refused {client : Client (Recorded τ)} {session : String} (atHand : client.session = some session)
    {command : Command} {failure : Failure}
    (told : answered (client.exchanged (command.inSession client.hub session)) = .error failure) :
    Exchanged client (client.exchanged (command.inSession client.hub session))
      (client.sent (command.inSession client.hub session)) := by
  refine exchanged_inSession atHand ⟨client.session, client.timeout⟩ ?_
  rw [atHand, after_inSession rfl, acknowledges_of_error told]
  rfl

/-- Neither does the request of an ordinary command. -/
theorem exchanged_ordinary {client : Client (Recorded τ)} {session : String} (atHand : client.session = some session)
    {command : Command} (ordinary : command.isOrdinary = true) :
    Exchanged client (client.exchanged (command.inSession client.hub session))
      (client.sent (command.inSession client.hub session)) := by
  refine exchanged_inSession atHand ⟨client.session, client.timeout⟩ ?_
  rw [atHand, after_ordinary ordinary rfl]

theorem exchanged_setTimeouts {client : Client (Recorded τ)} {session : String} (atHand : client.session = some session)
    {ms : Nat} {answer : Json}
    (told :
      answered (client.exchanged ((Command.setTimeouts timeoutKind ms).inSession client.hub session)) = .ok answer) :
    Exchanged client (client.exchanged ((Command.setTimeouts timeoutKind ms).inSession client.hub session))
      { client.sent ((Command.setTimeouts timeoutKind ms).inSession client.hub session) with timeout := some ms } := by
  refine exchanged_inSession atHand ⟨client.session, some ms⟩ ?_
  rw [atHand, after_inSession rfl, acknowledges_of_ok told]
  rfl

theorem exchanged_quit {client : Client (Recorded τ)} {session : String} (atHand : client.session = some session)
    {answer : Json} (told : answered (client.exchanged (Command.quit.inSession client.hub session)) = .ok answer) :
    Exchanged client (client.exchanged (Command.quit.inSession client.hub session))
      { client.sent (Command.quit.inSession client.hub session) with session := none, timeout := none } := by
  refine exchanged_inSession atHand {} ?_
  rw [atHand, after_inSession rfl, acknowledges_of_ok told]
  rfl

/-- The request for a new session that a client makes. -/
def beginning (client : Client (Recorded τ)) : Request :=
  Command.ofNewSession client.hub
    (Json.withDefault browserNameKey (.string defaultBrowserName) client.capabilities)

omit [Server τ] in
theorem asks_beginning (client : Client (Recorded τ)) : (dialect client.hub).asks client.beginning = true := by
  simp [dialect, beginning, Command.ofNewSession]

theorem exchanged_beginning {client : Client (Recorded τ)} (left : Dialect.Standing)
    (leaves : (dialect client.hub).after ⟨client.session, client.timeout⟩ (client.exchanged client.beginning) = left) :
    Exchanged client (client.exchanged client.beginning)
      { client.sent client.beginning with session := left.session, timeout := left.timeout } where
  dialect_eq := rfl
  log_eq := rfl
  belongs := .inl (asks_beginning client)
  standing_eq := leaves.symm

theorem preserves_exchange {command : Command} (ordinary : command.isOrdinary = true) :
    Action.Preserves Tracking (exchange command : Action (Client (Recorded τ)) Json) := by
  intro client tracking
  rcases exchange_cases command (Command.requiresSession_of_isOrdinary ordinary) client with
    ⟨_, performed⟩ | ⟨session, atHand, ⟨failure, _, performed⟩ | ⟨answer, _, performed⟩⟩
  · rw [performed]
    exact tracking
  · rw [performed]
    exact (exchanged_ordinary atHand ordinary).tracking tracking
  · rw [performed]
    exact (exchanged_ordinary atHand ordinary).tracking tracking

theorem refuses_exchange {command : Command} (requires : command.requiresSession = true)
    {client : Client (Recorded τ)} (sessionless : client.session = none) :
    Action.Refuses client (exchange command) := by
  rcases exchange_cases command requires client with ⟨_, performed⟩ | ⟨session, atHand, _⟩
  · exact ⟨.noSession, rfl, performed⟩
  · cases sessionless.symm.trans atHand

/-! ### Operations that change the session or its timeout -/

/-- The timeout is in force already, or there is no session to set it in, or the server is asked and agrees or not. -/
theorem setTimeout_performs (ms : Nat) (client : Client (Recorded τ)) :
    client.timeout = some ms ∧ (setTimeout ms).perform client = (.ok (), client) ∨
      client.session = none ∧ (setTimeout ms).perform client = (.error .noSession, client) ∨
      ∃ exchange after, client.session.isSome = true ∧ Exchanged client exchange after ∧
        after.session = client.session ∧
        ((∃ failure, (setTimeout ms).perform client = (.error failure, after) ∧ after.timeout = client.timeout) ∨
          (setTimeout ms).perform client = (.ok (), after) ∧ after.timeout = some ms) := by
  rw [Client.setTimeout, Action.perform_bind, Action.perform_get]
  dsimp only
  by_cases same : client.timeout = some ms
  · rw [if_neg fun differs => differs same, Action.perform_modify, ← same]
    exact .inl ⟨rfl, rfl⟩
  · rw [if_pos same, Action.perform_bind, run_perform]
    refine .inr ?_
    rcases exchange_cases (.setTimeouts timeoutKind ms) rfl client with
      ⟨none, performed⟩ | ⟨session, atHand, ⟨failure, told, performed⟩ | ⟨answer, told, performed⟩⟩
    · rw [performed]
      exact .inl ⟨none, rfl⟩
    · rw [performed]
      exact .inr ⟨_, _, atHand ▸ rfl, exchanged_refused atHand told, rfl, .inl ⟨failure, rfl, rfl⟩⟩
    · rw [performed]
      exact .inr ⟨_, _, atHand ▸ rfl, exchanged_setTimeouts atHand told, rfl, .inr ⟨rfl, rfl⟩⟩

/-- There is no session to end, or the server is asked and agrees or not. -/
theorem quit_performs (client : Client (Recorded τ)) :
    client.session = none ∧ quit.perform client = (.error .noSession, client) ∨
      ∃ exchange after, client.session.isSome = true ∧ Exchanged client exchange after ∧
        ((∃ failure, quit.perform client = (.error failure, after) ∧ after.session = client.session) ∨
          quit.perform client = (.ok (), after) ∧ after.session = none) := by
  rw [quit, Action.perform_bind]
  rcases exchange_cases .quit rfl client with
    ⟨none, performed⟩ | ⟨session, atHand, ⟨failure, told, performed⟩ | ⟨answer, told, performed⟩⟩
  · rw [performed]
    exact .inl ⟨none, rfl⟩
  · rw [performed]
    exact .inr ⟨_, _, atHand ▸ rfl, exchanged_refused atHand told, .inl ⟨failure, rfl, rfl⟩⟩
  · rw [performed]
    exact .inr ⟨_, _, atHand ▸ rfl, exchanged_quit atHand told, .inr ⟨rfl, rfl⟩⟩

/-- The answer names no session, or that session is begun and gets its timeout. -/
theorem newSession_performs (client : Client (Recorded τ)) :
    ∃ begun, Exchanged client (client.exchanged client.beginning) begun ∧
      ((dialect client.hub).begins? (client.exchanged client.beginning) = none ∧ begun.session = client.session ∧
          (∃ failure, newSession.perform client = (.error failure, begun)) ∨
        (∃ session, (dialect client.hub).begins? (client.exchanged client.beginning) = some session) ∧
          newSession.perform client = (setTimeout client.defaultTimeout).perform begun) := by
  have performed := exchange_of_request (Command.request_newSession
    (Json.withDefault browserNameKey (.string defaultBrowserName) client.capabilities) client.hub client.session)
  have begins : (dialect client.hub).begins? (client.exchanged client.beginning) =
      (answered (client.exchanged client.beginning)).toOption.bind sessionId? := begins?_ofNewSession rfl
  rw [newSession, Action.perform_bind, Action.perform_get]
  dsimp only
  rw [Action.perform_bind, performed]
  have unbegun (none : (dialect client.hub).begins? (client.exchanged client.beginning) = .none) :
      Exchanged client (client.exchanged client.beginning) (client.sent client.beginning) :=
    exchanged_beginning ⟨client.session, client.timeout⟩ (after_ofNewSession rfl none _)
  cases told : answered (client.exchanged client.beginning) with
  | error failure =>
    rw [told] at begins
    rw [beginning] at told
    refine ⟨client.sent client.beginning, unbegun begins, .inl ⟨begins, rfl, failure, ?_⟩⟩
    rw [told]
    rfl
  | ok answer =>
    rw [told] at begins
    rw [beginning] at told
    rw [told]
    cases named : (answer.member? "sessionId").bind Json.text? with
    | none =>
      replace begins := begins.trans named
      refine ⟨client.sent client.beginning, unbegun begins, .inl ⟨begins, rfl, ?_⟩⟩
      simp only [named]
      exact ⟨_, rfl⟩
    | some session =>
      replace begins := begins.trans named
      refine ⟨_, exchanged_beginning ⟨some session, .none⟩ (Dialect.after_of_begins _ begins),
        .inr ⟨⟨session, begins⟩, ?_⟩⟩
      simp only [named]
      rfl

end Client

open SessionClient Client

variable {τ : Type} [Server τ]

instance : LawfulTimeout (Client (Recorded τ)) where
  setTimeout_cases := setTimeout_performs

instance : Lawful (Client (Recorded τ)) where
  stop_cases := quit_performs
  start_cases client := by
    obtain ⟨begun, exchanged, performed⟩ := newSession_performs client
    refine ⟨_, begun, exchanged, asks_beginning client, performed.imp_right ?_⟩
    rintro ⟨begins, settles⟩
    exact ⟨begins, settles ▸ goesOn_setTimeout client.defaultTimeout begun⟩

end BrowserWait.WebDriver
