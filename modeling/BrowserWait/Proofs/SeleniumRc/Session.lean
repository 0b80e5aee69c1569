import BrowserWait.Proofs.Session.Client
import BrowserWait.SeleniumRc.Client

/-!
# Selenium RC sessions and their transcript

How RC exchanges speak of sessions, and that a client of a recorded driver keeps track of them. A command goes out as a
form whose only session field is the one of the session at hand; the client makes one exchange at a time and is lawful.
-/

namespace BrowserWait.SeleniumRc

/-! ## Reading exchanges -/

/-- What the server answered to the request of an exchange, or why there is no answer. -/
def answered (exchange : Exchange) : Except Failure String := exchange.outcome >>= classify

/-- Whether the server acknowledged the request of an exchange. -/
def acknowledges (exchange : Exchange) : Bool := (answered exchange).isOk

theorem acknowledges_of_ok {exchange : Exchange} {data : String} (told : answered exchange = .ok data) :
    acknowledges exchange = true := by
  rw [acknowledges, told]
  rfl

theorem acknowledges_of_error {exchange : Exchange} {failure : Failure} (told : answered exchange = .error failure) :
    acknowledges exchange = false := by
  rw [acknowledges, told]
  rfl

/-- The field with a command's name. -/
def commandKey : String := "cmd"

/-- The field with the session a command is addressed to. -/
def sessionKey : String := "sessionId"

/-- The number of milliseconds in a field. -/
def milliseconds? (request : Request) (key : String) : Option Nat :=
  (request.formField? key).bind fun text => Text.digitsValue? text.toList

/-- A request carries a form with a single session field, for the session with an id. -/
def Addresses (session : String) (request : Request) : Prop :=
  ∃ fields, request.body = .form fields ∧ fields.filter (·.1 = sessionKey) = [(sessionKey, session)]

/-- How the exchanges with a driver speak of sessions. -/
def dialect : Dialect where
  asks request := request.formField? commandKey == some "getNewBrowserSession"
  begins? exchange :=
    if exchange.request.formField? commandKey = some "getNewBrowserSession" then (answered exchange).toOption else none
  ends session exchange :=
    exchange.request.formField? commandKey == some "testComplete" &&
      exchange.request.formField? sessionKey == some session && acknowledges exchange
  timeout? session exchange :=
    if exchange.request.formField? commandKey = some "setTimeout" ∧
        exchange.request.formField? sessionKey = some session ∧ acknowledges exchange = true then
      milliseconds? exchange.request "1"
    else none
  Addresses := Addresses

/-! ## Requests -/

namespace Command

/-- Whether a command neither begins nor ends a session, nor sets its timeout. -/
def isOrdinary : Command → Bool
  | getNewBrowserSession .. | testComplete | setTimeout _ => false
  | _ => true

/-- The timeout a command sets. -/
def timeoutSet? : Command → Option Nat
  | setTimeout ms => some ms
  | _ => none

/-- The fields of a command before it is addressed. -/
def fields (command : Command) : List (String × String) :=
  (commandKey, command.name) :: numbered 1 command.arguments

/-- The request of a command that is addressed to a session. -/
def inSession (driver session : String) (command : Command) : Request where
  method := .post
  url := driver
  body := .form (command.fields ++ [(sessionKey, session)])

/-- The request of a command that is addressed to none. -/
def unaddressed (driver : String) (command : Command) : Request where
  method := .post
  url := driver
  body := .form command.fields

theorem requiresSession_of_isOrdinary {command : Command} (ordinary : command.isOrdinary = true) :
    command.requiresSession = true := by
  cases command with
  | getNewBrowserSession browser url extensionJs options => cases ordinary
  | _ => rfl

theorem request_some {command : Command} (requires : command.requiresSession = true) (driver session : String) :
    command.request driver (some session) = .ok (command.inSession driver session) := by
  have form : command.form (some session) = .ok (command.fields ++ [(sessionKey, session)]) := if_pos requires
  rw [request, form]
  rfl

theorem request_none {command : Command} (requires : command.requiresSession = true) (driver : String) :
    command.request driver none = .error .noSession := by
  have form : command.form none = .error .noSession := if_pos requires
  rw [request, form]
  rfl

theorem request_unaddressed {command : Command} (free : command.requiresSession = false) (driver : String)
    (session : Option String) : command.request driver session = .ok (command.unaddressed driver) := by
  have form : command.form session = .ok command.fields := if_neg (by rw [free]; exact Bool.false_ne_true)
  rw [request, form]
  rfl

/-! ### Fields -/

/-- Numerals are no other keys. -/
theorem toString_ne {key : String} {c : Char} {rest : List Char} (spelled : key.toList = c :: rest)
    (noDigit : c.isDigit = false) (n : Nat) : toString n ≠ key := by
  intro same
  rw [← same, ← Text.numeral_eq_repr, String.toList_ofList] at spelled
  have digit := Text.isDigit_of_mem_numeral (n := n) (c := c) (by simp [spelled])
  cases noDigit.symm.trans digit

theorem toString_inj {m n : Nat} (same : toString m = toString n) : m = n := by
  rw [← Text.numeral_eq_repr, ← Text.numeral_eq_repr, String.ofList_inj] at same
  exact Text.numeral_inj same

theorem exists_of_mem_numbered {first : Nat} {arguments : List String} {field : String × String}
    (member : field ∈ numbered first arguments) : ∃ n : Nat, field.1 = toString n := by
  induction arguments generalizing first with
  | nil => cases member
  | cons argument more ih =>
    rcases List.mem_cons.mp member with rfl | later
    · exact ⟨first, rfl⟩
    · exact ih later

/-- The session field of a command is only the one that addresses it. -/
theorem key_ne_sessionKey {command : Command} {field : String × String} (member : field ∈ command.fields) :
    field.1 ≠ sessionKey := by
  rcases List.mem_cons.mp member with rfl | among
  · exact (by decide : commandKey ≠ sessionKey)
  · obtain ⟨n, key⟩ := exists_of_mem_numbered among
    rw [key]
    exact toString_ne rfl rfl n

theorem lookup_append_of_absent {fields : List (String × String)} {key : String}
    (absent : ∀ field ∈ fields, field.1 ≠ key) (more : List (String × String)) :
    (fields ++ more).lookup key = more.lookup key := by
  induction fields with
  | nil => rfl
  | cons field rest ih =>
    have differs : key ≠ field.1 := (absent field List.mem_cons_self).symm
    rw [List.cons_append, List.lookup_cons, beq_false_of_ne differs]
    exact ih fun other member => absent other (List.mem_cons_of_mem _ member)

/-- Under a number stands the argument with that number, if there is one. -/
theorem lookup_numbered_append (arguments : List String) (first k : Nat) (more : List (String × String)) :
    (numbered first arguments ++ more).lookup (toString (first + k)) =
      arguments[k]?.or (more.lookup (toString (first + k))) := by
  induction arguments generalizing first k with
  | nil => rfl
  | cons head rest ih =>
    cases k with
    | zero => simp [numbered]
    | succ k =>
      have differs : toString (first + (k + 1)) ≠ toString first := by
        intro same
        have := toString_inj same
        omega
      rw [numbered, List.cons_append, List.lookup_cons, beq_false_of_ne differs, ← Nat.succ_add_eq_add_succ]
      exact ih (first + 1) k

theorem addresses_inSession (driver session : String) (command : Command) :
    Addresses session (command.inSession driver session) := by
  refine ⟨_, rfl, ?_⟩
  have none : command.fields.filter (·.1 = sessionKey) = [] := by
    refine List.filter_eq_nil_iff.mpr fun field member => ?_
    simpa using key_ne_sessionKey member
  rw [List.filter_append, none]
  simp

theorem formField?_command (driver session : String) (command : Command) :
    (command.inSession driver session).formField? commandKey = some command.name := by
  simp [inSession, Request.formField?, fields]

theorem formField?_session (driver session : String) (command : Command) :
    (command.inSession driver session).formField? sessionKey = some session := by
  refine (lookup_append_of_absent (fun field => key_ne_sessionKey) _).trans ?_
  simp

/-- The same in a form, whatever is behind the arguments. -/
theorem lookup_fields_append (command : Command) (k : Nat) (more : List (String × String)) :
    (command.fields ++ more).lookup (toString (1 + k)) =
      command.arguments[k]?.or (more.lookup (toString (1 + k))) := by
  have differs : toString (1 + k) ≠ commandKey := toString_ne rfl rfl _
  rw [fields, List.cons_append, List.lookup_cons, beq_false_of_ne differs]
  exact lookup_numbered_append command.arguments 1 k more

theorem lookup_argument {command : Command} {k : Nat} {argument : String}
    (given : command.arguments[k]? = some argument) (more : List (String × String)) :
    (command.fields ++ more).lookup (toString (1 + k)) = some argument := by
  rw [lookup_fields_append, given, Option.some_or]

theorem formField?_argument {command : Command} {k : Nat} {argument : String}
    (given : command.arguments[k]? = some argument) (driver session : String) :
    (command.inSession driver session).formField? (toString (1 + k)) = some argument :=
  lookup_argument given _

theorem milliseconds?_argument {command : Command} {k ms : Nat} (given : command.arguments[k]? = some (toString ms))
    (driver session : String) : milliseconds? (command.inSession driver session) (toString (1 + k)) = some ms := by
  rw [milliseconds?, formField?_argument given, ← Text.numeral_eq_repr]
  exact (congrArg Text.digitsValue? String.toList_ofList).trans (Text.digitsValue?_numeral ms)

end Command

/-! ## What requests do to the standing -/

section

variable {driver session : String} {command : Command} {exchange : Exchange}

theorem name_ne_launch (requires : command.requiresSession = true) : command.name ≠ "getNewBrowserSession" := by
  cases command with
  | getNewBrowserSession browser url extensionJs options => cases requires
  | _ => simp [Command.name]

theorem asks_inSession (requires : command.requiresSession = true) (driver session : String) :
    dialect.asks (command.inSession driver session) = false := by
  simp [dialect, Command.formField?_command, name_ne_launch requires]

theorem begins?_inSession (requires : command.requiresSession = true)
    (sent : exchange.request = command.inSession driver session) : dialect.begins? exchange = none := by
  refine if_neg ?_
  rw [sent, Command.formField?_command, Option.some_inj]
  exact name_ne_launch requires

/-- Of the requests in a session only the one of `testComplete` ends it. -/
theorem ends_inSession (sent : exchange.request = command.inSession driver session) :
    dialect.ends session exchange = (decide (command = .testComplete) && acknowledges exchange) := by
  simp only [dialect, sent, Command.formField?_command, Command.formField?_session]
  cases command <;> simp [Command.name]

/-- Of the requests in a session only those of `setTimeout` put a timeout in force. -/
theorem timeout?_inSession (sent : exchange.request = command.inSession driver session) :
    dialect.timeout? session exchange = if acknowledges exchange then command.timeoutSet? else none := by
  simp only [dialect, sent, Command.formField?_command, Command.formField?_session]
  cases command with
  | setTimeout ms =>
    have number : milliseconds? ((Command.setTimeout ms).inSession driver session) "1" = some ms :=
      Command.milliseconds?_argument (k := 0) rfl driver session
    simp [Command.name, Command.timeoutSet?, number]
  | _ => simp [Command.name, Command.timeoutSet?]

/-- What a request in the session does to the session at hand and its timeout. -/
theorem after_inSession (requires : command.requiresSession = true)
    (sent : exchange.request = command.inSession driver session) (timeout : Option Nat) :
    dialect.after ⟨some session, timeout⟩ exchange =
      if acknowledges exchange then
        if command = .testComplete then {} else ⟨some session, command.timeoutSet?.or timeout⟩
      else ⟨some session, timeout⟩ := by
  rw [Dialect.after_of_reply timeout (begins?_inSession requires sent) (ends_inSession sent) (timeout?_inSession sent)]
  simp only [decide_eq_true_eq]

theorem after_ordinary (ordinary : command.isOrdinary = true)
    (sent : exchange.request = command.inSession driver session) (timeout : Option Nat) :
    dialect.after ⟨some session, timeout⟩ exchange = ⟨some session, timeout⟩ := by
  have stays : command ≠ .testComplete := by
    rintro rfl
    cases ordinary
  have sets : command.timeoutSet? = none := by
    cases command with
    | setTimeout ms => cases ordinary
    | _ => rfl
  rw [after_inSession (Command.requiresSession_of_isOrdinary ordinary) sent, if_neg stays, sets, Option.none_or,
    ite_self]

variable {browser url extensionJs options : String}

theorem formField?_unaddressed (driver : String) (command : Command) :
    (command.unaddressed driver).formField? commandKey = some command.name := by
  simp [Command.unaddressed, Request.formField?, Command.fields]

theorem begins?_launch
    (sent : exchange.request = (Command.getNewBrowserSession browser url extensionJs options).unaddressed driver) :
    dialect.begins? exchange = (answered exchange).toOption := by
  refine if_pos ?_
  rw [sent, formField?_unaddressed]
  rfl

/-- A request for a new session that gets none changes nothing. -/
theorem after_launch
    (sent : exchange.request = (Command.getNewBrowserSession browser url extensionJs options).unaddressed driver)
    (begins : dialect.begins? exchange = none) (standing : Dialect.Standing) :
    dialect.after standing exchange = standing := by
  refine Dialect.after_of_silent begins ?_ ?_ standing
  · intro session
    simp [dialect, sent, formField?_unaddressed, Command.name]
  · intro session
    refine if_neg ?_
    rw [sent, formField?_unaddressed]
    simp [Command.name]

end

/-! ## Clients of a recorded driver -/

namespace Client

variable {τ : Type} [Server τ]

/-- The exchange a client makes with a request. -/
def exchanged (request : Request) (client : Client (Recorded τ)) : Exchange :=
  ⟨request, (Recorded.send request client.server).1⟩

/-- A client that made the exchange. -/
def sent (request : Request) (client : Client (Recorded τ)) : Client (Recorded τ) :=
  { client with server := (Recorded.send request client.server).2 }

instance : SessionClient (Client (Recorded τ)) where
  dialect _ := dialect
  log client := client.server.exchanges
  session := session
  start := start
  stop := testComplete

open SessionClient TimedSession

theorem perform_send (request : Request) (client : Client (Recorded τ)) :
    (send request).perform client = ((client.exchanged request).outcome, client.sent request) := rfl

theorem call_of_request {command : Command} {client : Client (Recorded τ)} {request : Request}
    (addressed : command.request client.driver client.session = .ok request) :
    (call command).perform client = (answered (client.exchanged request), client.sent request) := by
  rw [call, Action.perform_bind, Action.perform_get]
  dsimp only
  rw [Action.perform_bind, addressed, Action.perform_ofExcept]
  dsimp only
  rw [Action.perform_bind, perform_send, answered]
  cases (client.exchanged request).outcome with
  | ok response => rfl
  | error failure => rfl

theorem call_sessionless {command : Command} (requires : command.requiresSession = true) {client : Client (Recorded τ)}
    (sessionless : client.session = none) : (call command).perform client = (.error .noSession, client) := by
  rw [call, Action.perform_bind, Action.perform_get]
  dsimp only
  rw [Action.perform_bind, sessionless, Command.request_none requires, Action.perform_ofExcept]

theorem call_inSession {command : Command} (requires : command.requiresSession = true) {client : Client (Recorded τ)}
    {session : String} (atHand : client.session = some session) :
    (call command).perform client =
      (answered (client.exchanged (command.inSession client.driver session)),
        client.sent (command.inSession client.driver session)) :=
  call_of_request (atHand ▸ Command.request_some requires client.driver session)

theorem run_perform (command : Command) (client : Client (Recorded τ)) :
    (run command).perform client =
      match (call command).perform client with
      | (.ok _, client) => (.ok (), client)
      | (.error failure, client) => (.error failure, client) := by
  rw [run, Action.perform_bind]
  rcases (call command).perform client with ⟨outcome, after⟩
  cases outcome with
  | ok data => rfl
  | error failure => rfl

/-- A command for a session is refused without one, and else sent to it and answered or not. -/
theorem run_cases (command : Command) (requires : command.requiresSession = true) (client : Client (Recorded τ)) :
    client.session = none ∧ (run command).perform client = (.error .noSession, client) ∨
      ∃ session, client.session = some session ∧
        let request := command.inSession client.driver session
        ((∃ failure, answered (client.exchanged request) = .error failure ∧
            (run command).perform client = (.error failure, client.sent request)) ∨
          ∃ data, answered (client.exchanged request) = .ok data ∧
            (run command).perform client = (.ok (), client.sent request)) := by
  rw [run_perform]
  cases atHand : client.session with
  | none =>
    rw [call_sessionless requires atHand]
    exact .inl ⟨rfl, rfl⟩
  | some session =>
    rw [call_inSession requires atHand]
    refine .inr ⟨session, rfl, ?_⟩
    dsimp only
    cases told : answered (client.exchanged (command.inSession client.driver session)) with
    | error failure => exact .inl ⟨failure, rfl, rfl⟩
    | ok data => exact .inr ⟨data, rfl, rfl⟩

/-! ### Exchanges of a client -/

/-- A request in the session is an exchange that leaves the client with what the dialect makes of its standing. -/
theorem exchanged_inSession {client : Client (Recorded τ)} {session : String} (atHand : client.session = some session)
    {command : Command} (left : Dialect.Standing)
    (leaves : dialect.after ⟨client.session, client.timeout⟩
      (client.exchanged (command.inSession client.driver session)) = left) :
    Exchanged client (client.exchanged (command.inSession client.driver session))
      { client.sent (command.inSession client.driver session) with
        session := left.session, timeout := left.timeout } where
  dialect_eq := rfl
  log_eq := rfl
  belongs := .inr ⟨session, atHand, Command.addresses_inSession _ _ _⟩
  standing_eq := leaves.symm

/-- A request that the server does not acknowledge changes nothing. -/
theorem exchanged_refused {client : Client (Recorded τ)} {session : String} (atHand : client.session = some session)
    {command : Command} (requires : command.requiresSession = true) {failure : Failure}
    (told : answered (client.exchanged (command.inSession client.driver session)) = .error failure) :
    Exchanged client (client.exchanged (command.inSession client.driver session))
      (client.sent (command.inSession client.driver session)) := by
  refine exchanged_inSession atHand ⟨client.session, client.timeout⟩ ?_
  rw [atHand, after_inSession requires rfl, acknowledges_of_error told]
  rfl

/-- Neither does the request of an ordinary command. -/
theorem exchanged_ordinary {client : Client (Recorded τ)} {session : String} (atHand : client.session = some session)
    {command : Command} (ordinary : command.isOrdinary = true) :
    Exchanged client (client.exchanged (command.inSession client.driver session))
      (client.sent (command.inSession client.driver session)) := by
  refine exchanged_inSession atHand ⟨client.session, client.timeout⟩ ?_
  rw [atHand, after_ordinary ordinary rfl]

theorem exchanged_setTimeout {client : Client (Recorded τ)} {session : String} (atHand : client.session = some session)
    {ms : Nat} {data : String}
    (told : answered (client.exchanged ((Command.setTimeout ms).inSession client.driver session)) = .ok data) :
    Exchanged client (client.exchanged ((Command.setTimeout ms).inSession client.driver session))
      { client.sent ((Command.setTimeout ms).inSession client.driver session) with timeout := some ms } := by
  refine exchanged_inSession atHand ⟨client.session, some ms⟩ ?_
  rw [atHand, after_inSession rfl rfl, acknowledges_of_ok told]
  rfl

theorem exchanged_testComplete {client : Client (Recorded τ)} {session : String}
    (atHand : client.session = some session) {data : String}
    (told : answered (client.exchanged (Command.testComplete.inSession client.driver session)) = .ok data) :
    Exchanged client (client.exchanged (Command.testComplete.inSession client.driver session))
      { client.sent (Command.testComplete.inSession client.driver session) with session := none, timeout := none } := by
  refine exchanged_inSession atHand {} ?_
  rw [atHand, after_inSession rfl rfl, acknowledges_of_ok told]
  rfl

/-- The command by which a client launches a browser. -/
def launch (client : Client (Recorded τ)) : Command :=
  .getNewBrowserSession client.browser client.browserUrl "" client.launchOptions

/-- The request for a new session that a client makes. -/
def beginning (client : Client (Recorded τ)) : Request := client.launch.unaddressed client.driver

omit [Server τ] in
theorem asks_beginning (client : Client (Recorded τ)) : dialect.asks client.beginning = true := by
  simp [dialect, beginning, formField?_unaddressed, launch, Command.name]

theorem call_launch (client : Client (Recorded τ)) :
    (call client.launch).perform client = (answered (client.exchanged client.beginning), client.sent client.beginning) :=
  call_of_request (Command.request_unaddressed rfl client.driver client.session)

theorem exchanged_beginning {client : Client (Recorded τ)} (left : Dialect.Standing)
    (leaves : dialect.after ⟨client.session, client.timeout⟩ (client.exchanged client.beginning) = left) :
    Exchanged client (client.exchanged client.beginning)
      { client.sent client.beginning with session := left.session, timeout := left.timeout } where
  dialect_eq := rfl
  log_eq := rfl
  belongs := .inl (asks_beginning client)
  standing_eq := leaves.symm

theorem goesOn_call (command : Command) (ordinary : command.isOrdinary = true) (client : Client (Recorded τ)) :
    GoesOn client ((call command).perform client).2 := by
  have requires := Command.requiresSession_of_isOrdinary ordinary
  cases atHand : client.session with
  | none =>
    rw [call_sessionless requires atHand]
    exact .refl client
  | some session =>
    rw [call_inSession requires atHand]
    exact (exchanged_ordinary atHand ordinary).goesOn rfl

theorem preserves_call {command : Command} (ordinary : command.isOrdinary = true) :
    Action.Preserves Tracking (call command : Action (Client (Recorded τ)) String) :=
  fun client => (goesOn_call command ordinary client).tracking

theorem refuses_call {command : Command} (requires : command.requiresSession = true) {client : Client (Recorded τ)}
    (sessionless : client.session = none) : Action.Refuses client (call command) :=
  ⟨.noSession, rfl, call_sessionless requires sessionless⟩

/-! ### Operations that change the session or its timeout -/

/-- The timeout is in force already, or there is no session to set it in, or the server is asked and agrees or not. -/
theorem setTimeout_performs (ms : Nat) (client : Client (Recorded τ)) :
    client.timeout = some ms ∧ (setTimeout ms).perform client = (.ok (), client) ∨
      client.session = none ∧ (setTimeout ms).perform client = (.error .noSession, client) ∨
      ∃ exchange after, client.session.isSome = true ∧ Exchanged client exchange after ∧
        after.session = client.session ∧
        ((∃ failure, (setTimeout ms).perform client = (.error failure, after) ∧ after.timeout = client.timeout) ∨
          (setTimeout ms).perform client = (.ok (), after) ∧ after.timeout = some ms) := by
  rw [Client.setTimeout, Action.perform_bind, Action.perform_get]
  dsimp only
  by_cases same : client.timeout = some ms
  · rw [if_neg fun differs => differs same, Action.perform_modify, ← same]
    exact .inl ⟨rfl, rfl⟩
  · rw [if_pos same, Action.perform_bind]
    refine .inr ?_
    rcases run_cases (.setTimeout ms) rfl client with
      ⟨none, performed⟩ | ⟨session, atHand, ⟨failure, told, performed⟩ | ⟨data, told, performed⟩⟩
    · rw [performed]
      exact .inl ⟨none, rfl⟩
    · rw [performed]
      exact .inr ⟨_, _, atHand ▸ rfl, exchanged_refused atHand rfl told, rfl, .inl ⟨failure, rfl, rfl⟩⟩
    · rw [performed]
      exact .inr ⟨_, _, atHand ▸ rfl, exchanged_setTimeout atHand told, rfl, .inr ⟨rfl, rfl⟩⟩

/-- There is no session to end, or the server is asked and agrees or not. -/
theorem testComplete_performs (client : Client (Recorded τ)) :
    client.session = none ∧ testComplete.perform client = (.error .noSession, client) ∨
      ∃ exchange after, client.session.isSome = true ∧ Exchanged client exchange after ∧
        ((∃ failure, testComplete.perform client = (.error failure, after) ∧ after.session = client.session) ∨
          testComplete.perform client = (.ok (), after) ∧ after.session = none) := by
  rw [testComplete, Action.perform_bind]
  rcases run_cases .testComplete rfl client with
    ⟨none, performed⟩ | ⟨session, atHand, ⟨failure, told, performed⟩ | ⟨data, told, performed⟩⟩
  · rw [performed]
    exact .inl ⟨none, rfl⟩
  · rw [performed]
    exact .inr ⟨_, _, atHand ▸ rfl, exchanged_refused atHand rfl told, .inl ⟨failure, rfl, rfl⟩⟩
  · rw [performed]
    exact .inr ⟨_, _, atHand ▸ rfl, exchanged_testComplete atHand told, .inr ⟨rfl, rfl⟩⟩

/-- What a client does once its session is begun: it gives it the default timeout and asks the browser for its name. -/
def settle (ms : Nat) : Action (Client (Recorded τ)) Unit := do
  setTimeout ms
  let agent ← call (.getEval agentScript)
  modify fun client => { client with agent := some agent }

/-- The server gives no session, or the session is begun and settled in. -/
theorem start_performs (client : Client (Recorded τ)) :
    ∃ begun, Exchanged client (client.exchanged client.beginning) begun ∧
      (dialect.begins? (client.exchanged client.beginning) = none ∧ begun.session = client.session ∧
          (∃ failure, start.perform client = (.error failure, begun)) ∨
        (∃ session, dialect.begins? (client.exchanged client.beginning) = some session) ∧
          start.perform client = (settle client.defaultTimeout).perform begun) := by
  have begins : dialect.begins? (client.exchanged client.beginning) =
      (answered (client.exchanged client.beginning)).toOption := begins?_launch rfl
  rw [start, Action.perform_bind, Action.perform_get]
  dsimp only
  rw [← launch, Action.perform_bind, call_launch]
  cases told : answered (client.exchanged client.beginning) with
  | error failure =>
    rw [told] at begins
    have exchanged := exchanged_beginning ⟨client.session, client.timeout⟩ (after_launch rfl begins _)
    exact ⟨_, exchanged, .inl ⟨begins, rfl, failure, rfl⟩⟩
  | ok session =>
    rw [told] at begins
    exact ⟨_, exchanged_beginning ⟨some session, none⟩ (Dialect.after_of_begins _ begins),
      .inr ⟨⟨session, begins⟩, rfl⟩⟩

end Client

open SessionClient Client

variable {τ : Type} [Server τ]

instance : LawfulTimeout (Client (Recorded τ)) where
  setTimeout_cases := setTimeout_performs

theorem goesOn_settle (ms : Nat) (client : Client (Recorded τ)) : GoesOn client ((settle ms).perform client).2 := by
  have sets := GoesOn.preserves (goesOn_setTimeout ms) client
  have asks := GoesOn.preserves (goesOn_call (.getEval agentScript) rfl) client
  refine (sets.bind fun _ => asks.bind fun agent => Action.preserves_modify fun now goesOn => ?_) client (.refl client)
  exact ⟨goesOn.session_eq, goesOn.log_grows, goesOn.tracking⟩

instance : Lawful (Client (Recorded τ)) where
  stop_cases := testComplete_performs
  start_cases client := by
    obtain ⟨begun, exchanged, performed⟩ := start_performs client
    refine ⟨_, begun, exchanged, asks_beginning client, performed.imp_right ?_⟩
    rintro ⟨begins, settles⟩
    exact ⟨begins, settles ▸ goesOn_settle client.defaultTimeout begun⟩

end BrowserWait.SeleniumRc
