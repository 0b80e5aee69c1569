import BrowserWait.Proofs.SeleniumRc.Course
import BrowserWait.Proofs.SeleniumRc.Operation

/-!
# Waits on the server

Every wait for a condition of the browser is one wait command, under a timeout of its own where the command carries none
(`IsServerWait`). From the course such a command takes follows how the wait ends, whatever the server answers: `Waited`
says what becomes of each kind of failure, and that nothing but the server's word makes a wait hold.
-/

namespace BrowserWait.SeleniumRc

/-! ## Wait commands -/

namespace Command

/-- Whether a command waits on the server. -/
def isWait : Command → Bool
  | waitForPageToLoad _ | waitForCondition .. | waitForElementPresent _ | waitForElementNotPresent _ => true
  | _ => false

/-- The time that a wait command carries. -/
def budget? : Command → Option Nat
  | waitForPageToLoad ms | waitForCondition _ ms => some ms
  | _ => none

theorem isOrdinary_of_isWait {command : Command} (waits : command.isWait = true) : command.isOrdinary = true := by
  cases command with
  | waitForPageToLoad _ | waitForCondition _ _ | waitForElementPresent _ | waitForElementNotPresent _ => rfl
  | _ => cases waits

end Command

/-- The names of the commands that wait on the server. -/
def waitNames : List String :=
  ["waitForPageToLoad", "waitForCondition", "waitForElementPresent", "waitForElementNotPresent"]

/-- Whether a request is for a wait on the server. -/
def waits (request : Request) : Bool := (request.formField? commandKey).any (waitNames.contains ·)

theorem waits_inSession (driver session : String) (command : Command) :
    waits (command.inSession driver session) = command.isWait := by
  rw [waits, Command.formField?_command]
  cases command <;> simp [Command.name, waitNames, Command.isWait]

/-! ## How waits end -/

/-- A response that tells success: `OK`, alone or with a comma and data. -/
def TellsOk (response : Response) : Prop :=
  response.isSuccess = true ∧ (response.body = "OK" ∨ ∃ data, response.body = "OK," ++ data)

/-- What is reported of a wait: it holds, or it failed with the failure that decided it. -/
def reported (label : String) (ms : Nat) : (verdict : Option Failure) → Except Failure Bool
  | none => .ok true
  | some failure => .error (waitFailed label ms failure)

/-- How a wait ends that sent these exchanges. It never gives false and never a server's error: such an error, where it
decides, is reported with the condition and the time, and every other failure is passed on. It holds only if there is
nothing to ask the server, or the server told success of a wait. -/
structure Waited (asksServer : Bool) (label : String) (ms : Nat) (sent : List Exchange)
    (outcome : Except Failure Bool) : Prop where
  not_false : outcome ≠ .ok false
  not_remote : ∀ status message, outcome ≠ .error (.remote status message)
  unsent : sent = [] → outcome = if asksServer then .error .noSession else .ok true
  unanimous : sent ≠ [] → verdict sent = none → outcome = .ok true
  remote : ∀ status message, verdict sent = some (.remote status message) →
    outcome = .error (.assertion ("Selenium encountered an error: " ++ message ++ " (waited " ++ toString ms ++
      "ms for " ++ label ++ ")"))
  passed_on : ∀ failure, verdict sent = some failure → failure.status? = none → outcome = .error failure
  confirmed : outcome = .ok true → asksServer = false ∨
    ∃ exchange ∈ sent, waits exchange.request = true ∧ ∃ response, exchange.outcome = .ok response ∧ TellsOk response

theorem tellsOk_of_classify {response : Response} {data : String} (classified : classify response = .ok data) :
    TellsOk response := by
  obtain ⟨success, ⟨bare, -⟩ | body⟩ := classify_eq_ok_iff.mp classified
  · exact ⟨success, .inl bare⟩
  · exact ⟨success, .inr ⟨data, body⟩⟩

theorem tellsOk_of_failure? {exchange : Exchange} (succeeds : failure? exchange = none) :
    ∃ response, exchange.outcome = .ok response ∧ TellsOk response := by
  obtain ⟨data, told⟩ := answered_of_failure? succeeds
  rw [answered] at told
  cases given : exchange.outcome with
  | error failure =>
    rw [given] at told
    cases told
  | ok response =>
    rw [given] at told
    exact ⟨response, rfl, tellsOk_of_classify told⟩

theorem waited_unsent (label : String) (ms : Nat) : Waited true label ms [] (.error .noSession) where
  not_false := by simp
  not_remote := by simp
  unsent _ := rfl
  unanimous filled := absurd rfl filled
  remote _ _ decided := by cases decided
  passed_on _ decided := by cases decided
  confirmed holds := by cases holds

theorem waited_idle (label : String) (ms : Nat) : Waited false label ms [] (.ok true) where
  not_false := by simp
  not_remote := by simp
  unsent _ := rfl
  unanimous filled := absurd rfl filled
  remote _ _ decided := by cases decided
  passed_on _ decided := by cases decided
  confirmed _ := .inl rfl

/-- A wait reports the verdict of its exchanges, of which one is a wait that succeeded unless there is a failure. -/
theorem waited_reported (label : String) (ms : Nat) {sent : List Exchange} (filled : sent ≠ [])
    (main : verdict sent = none → ∃ exchange ∈ sent, waits exchange.request = true ∧ failure? exchange = none) :
    Waited true label ms sent (reported label ms (verdict sent)) where
  not_false := by
    cases verdict sent with
    | none => simp [reported]
    | some failure => simp [reported]
  not_remote := by
    intro status message
    cases verdict sent with
    | none => simp [reported]
    | some failure => cases failure <;> simp [reported, waitFailed]
  unsent none := absurd none filled
  unanimous _ none := by rw [none]; rfl
  remote status message decided := by rw [decided]; rfl
  passed_on failure decided own := by rw [decided, reported, waitFailed_passes label ms own]
  confirmed holds := by
    cases decided : verdict sent with
    | some failure =>
      rw [decided] at holds
      cases holds
    | none =>
      obtain ⟨exchange, member, isWait, succeeds⟩ := main decided
      exact .inr ⟨exchange, member, isWait, tellsOk_of_failure? succeeds⟩

/-! ## Waits are commands under a timeout -/

namespace Client

open SessionClient TimedSession

variable {τ : Type} [Server τ] {client : Client (Recorded τ)} {timeout : Option Nat} {label : String}

/-- A step waits on the server, for as long as the client says: by a wait command that carries the time, or by one that
does not, under that time for a timeout. -/
def IsServerWait (client : Client (Recorded τ)) (timeout : Option Nat) (label : String)
    (step : Action (Client (Recorded τ)) Bool) : Prop :=
  ∃ command scope, command.isWait = true ∧
    (command.budget? = some (client.waitTime timeout) ∧ scope = none ∨ command.budget? = none ∧ scope = timeout) ∧
    step.perform client = (asWait label (client.waitTime timeout) (withTimeout scope (run command))).perform client

theorem isServerWait_run (command : Command) (isWait : command.isWait = true)
    (carries : command.budget? = some (client.waitTime timeout)) :
    IsServerWait client timeout label (asWait label (client.waitTime timeout) (run command)) := by
  refine ⟨command, none, isWait, .inl ⟨carries, rfl⟩, ?_⟩
  rw [asWait, asWait, Action.perform_mapOutcome, Action.perform_mapOutcome, withTimeout_same (.inl rfl)]

theorem isServerWait_script (script : String) :
    IsServerWait client timeout label
      (asWait label (client.waitTime timeout) (waitForScript script (client.waitTime timeout))) :=
  isServerWait_run (.waitForCondition (windowPrelude ++ script) (client.waitTime timeout)) rfl rfl

theorem isServerWait_element (locator : Locator) (present : Bool) :
    IsServerWait client timeout label
      (asWait label (client.waitTime timeout) (waitForElement locator present timeout)) := by
  cases present with
  | true => exact ⟨.waitForElementPresent locator.text, timeout, rfl, .inr ⟨rfl, rfl⟩, rfl⟩
  | false => exact ⟨.waitForElementNotPresent locator.text, timeout, rfl, .inr ⟨rfl, rfl⟩, rfl⟩

/-- A compound condition without a kept failure is waited for by its script, unless it is empty. -/
theorem isServerWait_expression {wait : ScriptWait} (sound : wait.deferred = none) (asked : wait.isEmpty = false) :
    IsServerWait client timeout wait.describe (waitForExpression wait timeout) := by
  obtain ⟨script, compiled⟩ : ∃ script, wait.compile = .ok script := by
    rw [ScriptWait.compile, sound]
    exact ⟨_, rfl⟩
  have filled : script ≠ "" := by
    rintro rfl
    cases asked.symm.trans ((ScriptWait.compile_eq_empty_iff sound).mp compiled)
  have performed : (waitForExpression wait timeout).perform client =
      (asWait wait.describe (client.waitTime timeout)
        (waitForScript script (client.waitTime timeout))).perform client := by
    rw [waitForExpression, Action.perform_bind, compiled, Action.perform_ofExcept]
    dsimp only
    rw [if_neg filled, Action.perform_bind, Action.perform_get]
  have scripted : IsServerWait client timeout wait.describe
      (asWait wait.describe (client.waitTime timeout) (waitForScript script (client.waitTime timeout))) :=
    isServerWait_script script
  obtain ⟨command, scope, isWait, time, same⟩ := scripted
  exact ⟨command, scope, isWait, time, performed.trans same⟩

theorem waitForExpression_empty {wait : ScriptWait} (sound : wait.deferred = none) (empty : wait.isEmpty = true)
    (timeout : Option Nat) (client : Client (Recorded τ)) :
    (waitForExpression wait timeout).perform client = (.ok true, client) := by
  rw [waitForExpression, Action.perform_bind, (ScriptWait.compile_eq_empty_iff sound).mpr empty]
  rfl

omit [Server τ] in
theorem asWait_perform {step : Action (Client (Recorded τ)) Unit} {decided : Option Failure}
    {after : Client (Recorded τ)} (performed : step.perform client = (settled decided, after)) (ms : Nat) :
    (asWait label ms step).perform client = (reported label ms decided, after) := by
  rw [asWait, Action.perform_mapOutcome, performed]
  cases decided with
  | none => rfl
  | some failure => rfl

/-- Without a session nothing is sent. -/
theorem withTimeout_sessionless {command : Command} (requires : command.requiresSession = true)
    (sessionless : client.session = none) (scope : Option Nat) :
    (withTimeout scope (run command)).perform client = (.error .noSession, client) := by
  have refused {command : Command} (requires : command.requiresSession = true) :
      (run command).perform client = (.error .noSession, client) := by
    rw [run_perform, call_sessionless requires sessionless]
  by_cases same : scope = none ∨ scope = client.timeout
  · rw [withTimeout_same same, refused requires]
  · obtain ⟨ms, rfl⟩ : ∃ ms, scope = some ms := Option.ne_none_iff_exists'.mp fun none => same (.inl none)
    have differs : client.timeout ≠ some ms := fun equal => same (.inr equal.symm)
    have set : (TimedSession.setTimeout ms : Action (Client (Recorded τ)) Unit).perform client =
        (.error .noSession, client) := by
      rcases setTimeout_performs ms client with ⟨set, _⟩ | ⟨_, performed⟩ | ⟨_, _, atHand, _⟩
      · exact absurd set differs
      · exact performed
      · rw [sessionless] at atHand
        cases atHand
    rw [withTimeout_other differs, Action.perform_bind, set]

/-- A wait on the server ends as its exchanges decide. -/
theorem waited_of_isServerWait {step : Action (Client (Recorded τ)) Bool}
    (isWait : IsServerWait client timeout label step) :
    ∃ sent, log (step.perform client).2 = log client ++ sent ∧
      Waited true label (client.waitTime timeout) sent (step.perform client).1 := by
  obtain ⟨command, scope, waiting, _, same⟩ := isWait
  have requires := Command.requiresSession_of_isOrdinary (Command.isOrdinary_of_isWait waiting)
  rw [same]
  cases atHand : client.session with
  | none =>
    have performed : (withTimeout scope (run command)).perform client = (settled (some .noSession), client) :=
      withTimeout_sessionless requires atHand scope
    rw [asWait_perform performed]
    exact ⟨[], (List.append_nil _).symm, waited_unsent _ _⟩
  | some session =>
    obtain ⟨sent, after, makes, course, performed⟩ := course_withTimeout requires atHand scope
    rw [asWait_perform performed]
    refine ⟨sent, makes.log_eq, waited_reported label _ course.ne_nil fun unanimous => ?_⟩
    obtain ⟨main, member, asked⟩ := course.main unanimous
    exact ⟨main, member, by rw [asked, waits_inSession, waiting], failure?_eq_none_of_verdict unanimous member⟩

end Client

/-! ## Waits of a browser -/

namespace Settings

/-- What a wait for a condition is called when it fails. -/
def label (settings : Settings) : Condition → String
  | .visible locator => (settings.newWait.apply (.elementVisible (.element locator))).describe
  | .notVisible locator => (settings.newWait.apply (.elementNotVisible (.element locator))).describe
  | condition => condition.text

variable {τ : Type} [Server τ]

open SessionClient Client

theorem waitFor_isServerWait (settings : Settings) {condition : Condition} (asked : condition.isOfBrowser = true)
    (timeout : Option Nat) (world : World (Client (Recorded τ))) :
    ∃ step, IsServerWait world.browser timeout (settings.label condition) step ∧
      (settings.waitFor condition timeout).perform world = (World.onBrowser step).perform world := by
  rw [Settings.waitFor, Action.perform_bind, Action.perform_get]
  cases condition with
  | none => cases asked
  | duration ms => cases asked
  | page => exact ⟨_, isServerWait_run (.waitForPageToLoad _) rfl rfl, rfl⟩
  | element locator => exact ⟨_, isServerWait_element locator true, rfl⟩
  | notElement locator => exact ⟨_, isServerWait_element locator false, rfl⟩
  | ajax => exact ⟨_, isServerWait_script settings.flavor.complete, rfl⟩
  | script expression => exact ⟨_, isServerWait_script expression, rfl⟩
  | visible locator => exact ⟨_, isServerWait_expression rfl rfl, rfl⟩
  | notVisible locator => exact ⟨_, isServerWait_expression rfl rfl, rfl⟩

/-- Nothing and time are waited for without the client. -/
theorem waitFor_local (settings : Settings) {condition : Condition} (unasked : condition.isOfBrowser = false)
    (timeout : Option Nat) (world : World (Client (Recorded τ))) :
    ((settings.waitFor condition timeout).perform world).1 = .ok true ∧
      ((settings.waitFor condition timeout).perform world).2.browser = world.browser := by
  cases condition with
  | none => exact ⟨rfl, rfl⟩
  | duration ms => exact ⟨rfl, rfl⟩
  | _ => cases unasked

/-- Every wait, in every state and whatever the server answers, ends as its exchanges decide: it never gives false, and
it holds only where the server told success of a wait or had not to be asked. -/
theorem waits_end_as_decided (settings : Settings) (timeout : Option Nat) (world : World (Client (Recorded τ))) :
    (∀ condition, ∃ sent,
      log ((settings.waitFor condition timeout).perform world).2.browser = log world.browser ++ sent ∧
        Waited condition.isOfBrowser (settings.label condition) (timeout.getD world.browser.currentTimeout) sent
          ((settings.waitFor condition timeout).perform world).1) ∧
    (∀ wait : ScriptWait, wait.deferred = none → ∃ sent,
      log ((waitForExpression wait timeout).perform world.browser).2 = log world.browser ++ sent ∧
        Waited (!wait.isEmpty) wait.describe (timeout.getD world.browser.currentTimeout) sent
          ((waitForExpression wait timeout).perform world.browser).1) := by
  constructor
  · intro condition
    cases asked : condition.isOfBrowser with
    | true =>
      obtain ⟨step, isWait, same⟩ := settings.waitFor_isServerWait asked timeout world
      rw [same]
      exact waited_of_isServerWait isWait
    | false =>
      obtain ⟨holds, left⟩ := settings.waitFor_local asked timeout world
      rw [holds, left]
      exact ⟨[], (List.append_nil _).symm, waited_idle _ _⟩
  · intro wait sound
    cases empty : wait.isEmpty with
    | true =>
      rw [waitForExpression_empty sound empty]
      exact ⟨[], (List.append_nil _).symm, waited_idle _ _⟩
    | false => exact waited_of_isServerWait (isServerWait_expression sound empty)

/-- A server that is never heard of fails a wait for a menu to be shown, in whatever session it is sent. -/
theorem waits_end_as_decided_unheard :
    let wait : ScriptWait := ScriptWait.apply {} (.elementVisible (.element (.css "#menu")))
    let client : Client (Recorded ScriptedServer) := { server := ⟨{}, []⟩, driver := "driver", session := some "s1" }
    wait.deferred = none ∧ ∃ sent,
      log ((waitForExpression wait (some 500)).perform client).2 = log client ++ sent ∧
        Waited true wait.describe 500 sent ((waitForExpression wait (some 500)).perform client).1 := by
  intro wait client
  have sound : wait.deferred = none := rfl
  exact ⟨sound, (waits_end_as_decided {} (some 500) { browser := client }).2 wait sound⟩

end Settings

end BrowserWait.SeleniumRc
