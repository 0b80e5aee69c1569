import BrowserWait.Proofs.SeleniumRc.ServerWait

/-!
# The time of waits on the server

A wait command has the time it carries, or that of the timeout in force when it is sent. A wait that is given a time
puts it in force before it sends a command that carries none, so `Budgeted` holds of every wait in a session with a
timeout: the command has the time that the wait was given, and the time that a failure reports is that of the command.
-/

namespace BrowserWait.SeleniumRc

/-- The time that a wait has when its request is sent behind a log: its own, or that of the timeout in force. -/
inductive Budget (log : List Exchange) (request : Request) (ms : Nat) : Prop where
  | page (named : request.formField? commandKey = some "waitForPageToLoad") (own : milliseconds? request "1" = some ms)
  | condition (named : request.formField? commandKey = some "waitForCondition")
      (own : milliseconds? request "2" = some ms)
  | element (named : request.formField? commandKey = some "waitForElementPresent" ∨
        request.formField? commandKey = some "waitForElementNotPresent")
      (inForce : dialect.InForce log ms)

/-- A wait command has the time it carries, or that of the timeout in force. -/
theorem budget_inSession {command : Command} {ms : Nat} {log : List Exchange} (isWait : command.isWait = true)
    (time : command.budget? = some ms ∨ command.budget? = none ∧ dialect.InForce log ms) (driver session : String) :
    Budget log (command.inSession driver session) ms := by
  have named := command.formField?_command driver session
  cases command with
  | waitForPageToLoad own =>
    rcases time with carried | ⟨none, _⟩
    · cases carried
      exact .page named (Command.milliseconds?_argument (k := 0) rfl driver session)
    · cases none
  | waitForCondition script own =>
    rcases time with carried | ⟨none, _⟩
    · cases carried
      exact .condition named (Command.milliseconds?_argument (k := 1) rfl driver session)
    · cases none
  | waitForElementPresent locator =>
    rcases time with carried | ⟨_, inForce⟩
    · cases carried
    · exact .element (.inl named) inForce
  | waitForElementNotPresent locator =>
    rcases time with carried | ⟨_, inForce⟩
    · cases carried
    · exact .element (.inr named) inForce
  | _ => cases isWait

/-- A server never lets the caller give up. -/
def Uninterrupted (τ : Type) [Server τ] : Prop :=
  ∀ (request : Request) (server : τ), ((Server.send request).perform server).1 ≠ .error .interrupted

theorem uninterrupted_scripted : Uninterrupted ScriptedServer := by
  rintro request ⟨queued, fallback⟩
  cases queued with
  | cons response more => exact nofun
  | nil =>
    cases fallback with
    | some response => exact nofun
    | none => exact nofun

/-- What a wait with a time sends behind a log: no wait command, and then it fails; or a single one, which has that time
when it is sent, and whose error is reported with that time. -/
inductive Budgeted (label : String) (ms : Nat) (log sent : List Exchange) (outcome : Except Failure Bool) : Prop where
  | unsent (none : ∀ exchange ∈ sent, waits exchange.request = false) (fails : ∃ failure, outcome = .error failure)
  | sent (before : List Exchange) {behind : List Exchange} {main : Exchange} (split : sent = before ++ main :: behind)
      (isWait : waits main.request = true) (alone : ∀ exchange ∈ before ++ behind, waits exchange.request = false)
      (budget : Budget (log ++ before) main.request ms)
      (reports : ∀ status message, answered main = .error (.remote status message) →
        outcome = .error (.assertion ("Selenium encountered an error: " ++ message ++ " (waited " ++ toString ms ++
          "ms for " ++ label ++ ")")))

/-- A response that is no success is an error of the server. -/
theorem remote_of_classify {response : Response} {failure : Failure} (classified : classify response = .error failure) :
    ∃ status message, failure = .remote status message := by
  rw [classify] at classified
  split at classified
  · cases classified
  · cases classified
    exact ⟨_, _, rfl⟩

theorem failure?_ne_interrupted {τ : Type} [Server τ] (uninterrupted : Uninterrupted τ) {exchange : Exchange}
    (served : OfServer τ exchange) : failure? exchange ≠ some .interrupted := by
  intro givenUp
  have told := answered_of_failure?_some givenUp
  obtain ⟨server, given⟩ := served
  rw [answered] at told
  cases outcome : exchange.outcome with
  | error failure =>
    rw [outcome] at told
    cases told
    exact uninterrupted exchange.request server (given.symm.trans outcome)
  | ok response =>
    rw [outcome] at told
    obtain ⟨_, _, remote⟩ := remote_of_classify told
    cases remote

namespace Client

open SessionClient

variable {τ : Type} [Server τ] {client : Client (Recorded τ)} {session : String}

/-- A timeout that the server sets is in force behind the exchange. -/
theorem inForce_of_set (tracking : Tracking client) (atHand : client.session = some session) {set : Exchange} {ms : Nat}
    (asked : set.request = (Command.setTimeout ms).inSession client.driver session) (granted : failure? set = none) :
    dialect.InForce (log client ++ [set]) ms := by
  obtain ⟨data, told⟩ := answered_of_failure? granted
  have left : dialect.standing (log client) = ⟨some session, client.timeout⟩ := by
    rw [← atHand]
    exact tracking.standing_eq
  refine Dialect.standing_timeout_iff.mp ?_
  rw [Dialect.standing_concat, left, after_inSession rfl asked, acknowledges_of_ok told]
  rfl

end Client

namespace Course

variable {driver session label : String} {command : Command} {former timeout : Option Nat} {sent log : List Exchange}
  {ms : Nat}

/-- The course of a wait command gives it its time, if the timeout that is in force when it is sent does. -/
theorem budgeted (course : Course driver session command former timeout sent) (isWait : command.isWait = true)
    (kept : timeout = none ∨ timeout = former →
      command.budget? = some ms ∨ command.budget? = none ∧ dialect.InForce log ms)
    (changed : ∀ other set, timeout = some other → set.request = (Command.setTimeout other).inSession driver session →
      failure? set = none → command.budget? = none ∧ dialect.InForce (log ++ [set]) ms)
    (uninterrupted : ∀ exchange ∈ sent, failure? exchange ≠ some .interrupted) :
    Budgeted label ms log sent (reported label ms (verdict sent)) := by
  have waiting {main : Exchange} (sent : main.request = command.inSession driver session) :
      waits main.request = true := by rw [sent, waits_inSession, isWait]
  have setting {set : Exchange} {other : Nat}
      (asked : set.request = (Command.setTimeout other).inSession driver session) : waits set.request = false := by
    rw [asked, waits_inSession]
    rfl
  cases course with
  | plain same sent =>
    refine .sent [] rfl (waiting sent) (by simp) ?_ ?_
    · rw [List.append_nil, sent]
      exact budget_inSession isWait (kept same) driver session
    · intro status message told
      rw [verdict_singleton, failure?_of_answered told]
      rfl
  | refused asked fails =>
    refine .unsent ?_ ⟨_, by rw [verdict_singleton, fails]; rfl⟩
    intro exchange member
    cases List.mem_singleton.mp member
    exact setting asked
  | unrestored asked granted sent =>
    refine .sent [_] rfl (waiting sent) ?_ ?_ ?_
    · intro exchange member
      cases List.mem_singleton.mp member
      exact setting asked
    · rw [sent]
      exact budget_inSession isWait (.inr (changed _ _ rfl asked granted)) driver session
    · intro status message told
      rw [verdict_cons_none granted, verdict_singleton, failure?_of_answered told]
      rfl
  | @restored _ _ _ _ last given asked granted sent askedBack =>
    refine .sent [_] rfl (waiting sent) ?_ ?_ ?_
    · intro exchange member
      rcases List.mem_cons.mp member with rfl | behind
      · exact setting asked
      · cases List.mem_singleton.mp behind
        exact setting askedBack
    · rw [sent]
      exact budget_inSession isWait (.inr (changed _ _ rfl asked granted)) driver session
    · intro status message told
      rw [verdict_cons_none granted, verdict_pair (failure?_of_answered told) rfl]
      cases put : failure? last with
      | none => rfl
      | some later =>
        -- the server's error stays the verdict, for nobody gave up while the timeout was put back
        have lasting : later.isFatal = false := by
          refine beq_eq_false_iff_ne.mpr fun givenUp => ?_
          exact uninterrupted last (by simp) (givenUp ▸ put)
        dsimp only
        rw [lasting]
        rfl

end Course

namespace Client

open SessionClient TimedSession

variable {τ : Type} [Server τ] {client : Client (Recorded τ)} {timeout : Option Nat} {label : String}

/-- A wait on the server has the time that is asked for, or that of the timeout in force. -/
theorem budgeted_of_isServerWait (uninterrupted : Uninterrupted τ) (tracking : Tracking client)
    (set : ∃ former, dialect.InForce (log client) former) {step : Action (Client (Recorded τ)) Bool}
    (isWait : IsServerWait client timeout label step) :
    ∃ sent, log (step.perform client).2 = log client ++ sent ∧
      Budgeted label (client.waitTime timeout) (log client) sent (step.perform client).1 := by
  obtain ⟨command, scope, waiting, time, same⟩ := isWait
  obtain ⟨former, inForce⟩ := set
  have requires := Command.requiresSession_of_isOrdinary (Command.isOrdinary_of_isWait waiting)
  have believed : client.timeout = some former := tracking.timeout_iff.mpr inForce
  cases atHand : client.session with
  | none => cases believed.symm.trans (tracking.timeout_eq_none atHand)
  | some session =>
    obtain ⟨sent, after, makes, course, performed⟩ := course_withTimeout requires atHand scope
    rw [same, asWait_perform performed]
    refine ⟨sent, makes.log_eq, course.budgeted waiting ?_ ?_ ?_⟩
    · intro unscoped
      refine time.imp And.left ?_
      rintro ⟨none, rfl⟩
      have whole : client.waitTime scope = former := by
        rcases unscoped with rfl | rfl <;> simp [waitTime, currentTimeout, believed]
      exact ⟨none, whole ▸ inForce⟩
    · rintro other set rfl asked granted
      rcases time with ⟨_, none⟩ | ⟨none, rfl⟩
      · cases none
      · exact ⟨none, inForce_of_set tracking atHand asked granted⟩
    · exact fun exchange member => failure?_ne_interrupted uninterrupted (makes.served exchange member)

end Client

namespace Settings

open Action Client SessionClient

variable {τ : Type} [Server τ]

/-- Whatever was done with a browser before, if a timeout was acknowledged in its session then a wait sends no more than
one wait command, and the time that command has on the server is the one that the wait was given, or was to take; an
error of the server is reported with that time. -/
theorem waits_have_their_time (uninterrupted : Uninterrupted τ) (server : τ)
    (driver browser browserUrl launchOptions : String) (defaultTimeout : Nat) (settings : Settings)
    (operations : List Operation) (timeout : Option Nat) :
    let world := through (Operation.step settings) operations
      { browser := Client.unstarted server driver browser browserUrl launchOptions defaultTimeout }
    let ms := timeout.getD world.browser.currentTimeout
    (∃ former, dialect.InForce (log world.browser) former) →
      (∀ condition, condition.isOfBrowser = true → ∃ sent,
        log ((settings.waitFor condition timeout).perform world).2.browser = log world.browser ++ sent ∧
          Budgeted (settings.label condition) ms (log world.browser) sent
            ((settings.waitFor condition timeout).perform world).1) ∧
      (∀ wait : ScriptWait, wait.deferred = none → wait.isEmpty = false → ∃ sent,
        log ((waitForExpression wait timeout).perform world.browser).2 = log world.browser ++ sent ∧
          Budgeted wait.describe ms (log world.browser) sent
            ((waitForExpression wait timeout).perform world.browser).1) := by
  intro world ms set
  have start := tracking_unstarted server driver browser browserUrl launchOptions defaultTimeout
  have tracking : Tracking world.browser := tracking_through settings operations start
  constructor
  · intro condition asked
    obtain ⟨step, isWait, same⟩ := settings.waitFor_isServerWait asked timeout world
    rw [same]
    exact budgeted_of_isServerWait uninterrupted tracking set isWait
  · intro wait sound asked
    exact budgeted_of_isServerWait uninterrupted tracking set (isServerWait_expression sound asked)

/-- A wait for a menu that expires on the server is reported with its own half second, not with the timeout that is put
back behind it. -/
theorem waits_have_their_time_expired :
    let server : ScriptedServer :=
      { queued := ["OK,s1", "OK", "OK,Agent", "OK", "Timed out after 500ms", "OK"].map Response.ofText }
    let world := through (Operation.step {}) [.session (.single .start)]
      { browser := Client.unstarted server "driver" "*firefox" "" "" 16000 }
    let waited := (waitFor {} (.element (.css "#menu")) (some 500)).perform world
    Uninterrupted ScriptedServer ∧ (∃ former, dialect.InForce (log world.browser) former) ∧
      (∃ sent, log waited.2.browser = log world.browser ++ sent ∧
        Budgeted "element:css=#menu" 500 (log world.browser) sent waited.1) ∧
      waited.1 = .error (.assertion
        "Selenium encountered an error: Timed out after 500ms (waited 500ms for element:css=#menu)") := by
  intro server world waited
  have inForce : dialect.InForce (log world.browser) 16000 := Dialect.standing_timeout_iff.mp (by decide)
  have timed := waits_have_their_time uninterrupted_scripted server "driver" "*firefox" "" "" 16000 {}
    [.session (.single .start)] (some 500) ⟨16000, inForce⟩
  refine ⟨uninterrupted_scripted, ⟨16000, inForce⟩, timed.1 (.element (.css "#menu")) rfl, ?_⟩
  decide

end Settings

end BrowserWait.SeleniumRc
