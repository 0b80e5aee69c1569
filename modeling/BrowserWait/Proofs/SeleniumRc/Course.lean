import BrowserWait.Proofs.SeleniumRc.Session
import BrowserWait.Proofs.Session.Scope

/-!
# The course of a command under a timeout

A command under a timeout of its own takes up to three exchanges: the timeout is set, the command is sent, and the
former timeout is put back. `Course` has one constructor for each way that can go, and the outcome is read off the
exchanges alone (`course_withTimeout`): giving up decides it, or else the first failure.
-/

namespace BrowserWait.SeleniumRc

/-- Why there is no answer to the request of an exchange, or an error for one. -/
def failure? (exchange : Exchange) : Option Failure :=
  match answered exchange with
  | .ok _ => none
  | .error failure => some failure

theorem answered_of_failure? {exchange : Exchange} (succeeds : failure? exchange = none) :
    ∃ data, answered exchange = .ok data := by
  rw [failure?] at succeeds
  cases told : answered exchange with
  | ok data => exact ⟨data, rfl⟩
  | error failure =>
    rw [told] at succeeds
    cases succeeds

theorem answered_of_failure?_some {exchange : Exchange} {failure : Failure} (fails : failure? exchange = some failure) :
    answered exchange = .error failure := by
  rw [failure?] at fails
  cases told : answered exchange with
  | ok data =>
    rw [told] at fails
    cases fails
  | error other =>
    rw [told] at fails
    cases fails
    rfl

theorem failure?_of_answered {exchange : Exchange} {failure : Failure} (told : answered exchange = .error failure) :
    failure? exchange = some failure := by
  rw [failure?, told]

/-- The failure that decides exchanges made one after another: giving up, or else the first failure. -/
def verdict (sent : List Exchange) : Option Failure :=
  let failures := sent.filterMap failure?
  (failures.find? Failure.isFatal).or failures.head?

theorem verdict_singleton (exchange : Exchange) : verdict [exchange] = failure? exchange := by
  cases fails : failure? exchange with
  | none => simp [verdict, fails]
  | some failure => cases fatal : failure.isFatal <;> simp [verdict, fails, fatal]

/-- Where nothing decides, every exchange succeeds. -/
theorem failure?_eq_none_of_verdict {sent : List Exchange} (unanimous : verdict sent = none) {exchange : Exchange}
    (member : exchange ∈ sent) : failure? exchange = none := by
  rw [verdict, Option.or_eq_none_iff, List.head?_eq_none_iff] at unanimous
  exact List.filterMap_eq_nil_iff.mp unanimous.2 exchange member

/-- What succeeds decides nothing. -/
theorem verdict_cons_none {exchange : Exchange} (succeeds : failure? exchange = none) (more : List Exchange) :
    verdict (exchange :: more) = verdict more := by
  simp [verdict, succeeds]

/-- Behind a failure only giving up decides. -/
theorem verdict_pair {exchange last : Exchange} {failure : Failure} (fails : failure? exchange = some failure)
    (lasting : failure.isFatal = false) :
    verdict [exchange, last] =
      match failure? last with
      | none => some failure
      | some later => some (if later.isFatal then later else failure) := by
  cases put : failure? last with
  | none => simp [verdict, fails, lasting, put]
  | some later => cases fatal : later.isFatal <;> simp [verdict, fails, lasting, put, fatal]

/-- The outcome a verdict gives. -/
def settled : (verdict : Option Failure) → Except Failure Unit
  | none => .ok ()
  | some failure => .error failure

/-- The exchange is one with a server: its outcome is what that server gave for its request. -/
def OfServer (τ : Type) [Server τ] (exchange : Exchange) : Prop :=
  ∃ server : τ, exchange.outcome = ((Server.send exchange.request).perform server).1

/-- The exchanges of a command under a timeout, in a session with a former one. -/
inductive Course (driver session : String) (command : Command) (former : Option Nat) :
    (timeout : Option Nat) → (sent : List Exchange) → Prop where
  /-- No other timeout than the former one is asked for. -/
  | plain {timeout : Option Nat} {main : Exchange} (same : timeout = none ∨ timeout = former)
      (sent : main.request = command.inSession driver session) : Course driver session command former timeout [main]
  /-- The server does not set the timeout. -/
  | refused {ms : Nat} {set : Exchange} {failure : Failure}
      (asked : set.request = (Command.setTimeout ms).inSession driver session) (fails : failure? set = some failure) :
      Course driver session command former (some ms) [set]
  /-- There is no timeout to put back, or the caller gave up. -/
  | unrestored {ms : Nat} {set main : Exchange}
      (asked : set.request = (Command.setTimeout ms).inSession driver session) (granted : failure? set = none)
      (sent : main.request = command.inSession driver session) :
      Course driver session command former (some ms) [set, main]
  | restored {ms back : Nat} {set main last : Exchange} (given : former = some back)
      (asked : set.request = (Command.setTimeout ms).inSession driver session) (granted : failure? set = none)
      (sent : main.request = command.inSession driver session)
      (askedBack : last.request = (Command.setTimeout back).inSession driver session) :
      Course driver session command former (some ms) [set, main, last]

namespace Course

variable {driver session : String} {command : Command} {former timeout : Option Nat} {sent : List Exchange}

theorem ne_nil (course : Course driver session command former timeout sent) : sent ≠ [] := by
  cases course <;> simp

/-- Unless something fails the command is sent. -/
theorem main (course : Course driver session command former timeout sent) (unanimous : verdict sent = none) :
    ∃ exchange ∈ sent, exchange.request = command.inSession driver session := by
  cases course with
  | plain same sent => exact ⟨_, by simp, sent⟩
  | refused asked fails => cases fails.symm.trans ((verdict_singleton _).symm.trans unanimous)
  | unrestored asked granted sent => exact ⟨_, by simp, sent⟩
  | restored given asked granted sent askedBack => exact ⟨_, by simp, sent⟩

end Course

namespace Client

open SessionClient TimedSession

variable {τ : Type} [Server τ]

/-- A client makes exchanges and stays in its session. -/
structure Makes (client : Client (Recorded τ)) (sent : List Exchange) (after : Client (Recorded τ)) : Prop where
  log_eq : log after = log client ++ sent
  session_eq : after.session = client.session
  driver_eq : after.driver = client.driver
  served : ∀ exchange ∈ sent, OfServer τ exchange

theorem Makes.trans {client between after : Client (Recorded τ)} {sent more : List Exchange}
    (first : Makes client sent between) (second : Makes between more after) : Makes client (sent ++ more) after where
  log_eq := by rw [second.log_eq, first.log_eq, List.append_assoc]
  session_eq := second.session_eq.trans first.session_eq
  driver_eq := second.driver_eq.trans first.driver_eq
  served exchange member := (List.mem_append.mp member).elim (first.served exchange) (second.served exchange)

variable {client : Client (Recorded τ)} {session : String} {command : Command}

theorem makes_sent (request : Request) (client : Client (Recorded τ)) :
    Makes client [client.exchanged request] (client.sent request) where
  log_eq := rfl
  session_eq := rfl
  driver_eq := rfl
  served exchange member := by
    cases List.mem_singleton.mp member
    exact ⟨client.server.server, rfl⟩

theorem run_makes (command : Command) (requires : command.requiresSession = true)
    (atHand : client.session = some session) :
    ∃ main after, Makes client [main] after ∧ main.request = command.inSession client.driver session ∧
      after.timeout = client.timeout ∧ (run command).perform client = (settled (failure? main), after) := by
  refine ⟨_, _, makes_sent (command.inSession client.driver session) client, rfl, rfl, ?_⟩
  rw [run_perform, call_inSession requires atHand, failure?]
  cases answered (client.exchanged (command.inSession client.driver session)) with
  | ok data => rfl
  | error failure => rfl

theorem setTimeout_makes {ms : Nat} (differs : client.timeout ≠ some ms) (atHand : client.session = some session) :
    ∃ set after, Makes client [set] after ∧ set.request = (Command.setTimeout ms).inSession client.driver session ∧
      (failure? set = none → after.timeout = some ms) ∧
      (setTimeout ms).perform client = (settled (failure? set), after) := by
  obtain ⟨set, after, makes, asked, same, performed⟩ := run_makes (.setTimeout ms) rfl atHand
  have sends : (setTimeout ms).perform client =
      (run (.setTimeout ms) >>= fun _ => modify fun client => { client with timeout := some ms }).perform client := by
    rw [Client.setTimeout, Action.perform_bind, Action.perform_get]
    dsimp only
    rw [if_pos differs]
  rw [sends, Action.perform_bind, performed]
  cases fails : failure? set with
  | none =>
    refine ⟨set, { after with timeout := some ms }, ?_, asked, fun _ => rfl, by rw [fails]; rfl⟩
    exact ⟨makes.log_eq, makes.session_eq, makes.driver_eq, makes.served⟩
  | some failure =>
    refine ⟨set, after, makes, asked, fun granted => ?_, by rw [fails]; rfl⟩
    cases fails.symm.trans granted

/-- A command, with the former timeout put back behind it unless the caller gave up. -/
theorem course_thenRestore (requires : command.requiresSession = true) (atHand : client.session = some session)
    {former : Option Nat} (other : client.timeout ≠ former) :
    ∃ main more after, Makes client (main :: more) after ∧ main.request = command.inSession client.driver session ∧
      (more = [] ∨ ∃ back last, former = some back ∧ more = [last] ∧
        last.request = (Command.setTimeout back).inSession client.driver session) ∧
      (thenRestore former (run command)).perform client = (settled (verdict (main :: more)), after) := by
  obtain ⟨main, between, makes, sent, kept, performed⟩ := run_makes command requires atHand
  cases former with
  | none =>
    refine ⟨main, [], between, makes, sent, .inl rfl, ?_⟩
    rw [thenRestore_none performed, verdict_singleton]
  | some back =>
    -- another timeout than the former one is in force, so putting it back takes a request
    obtain ⟨last, after, makesLast, askedBack, _, put⟩ :=
      setTimeout_makes (kept ▸ other : between.timeout ≠ some back) (makes.session_eq.trans atHand)
    rw [makes.driver_eq] at askedBack
    replace put : (TimedSession.setTimeout back : Action (Client (Recorded τ)) Unit).perform between =
      (settled (failure? last), after) := put
    have restored := makes.trans makesLast
    cases fails : failure? main with
    | none =>
      rw [fails] at performed
      refine ⟨main, [last], after, restored, sent, .inr ⟨back, last, rfl, rfl, askedBack⟩, ?_⟩
      rw [thenRestore_ok back performed, put, verdict_cons_none fails, verdict_singleton]
      cases failure? last with
      | none => rfl
      | some later => rfl
    | some failure =>
      rw [fails] at performed
      cases fatal : failure.isFatal with
      | true =>
        refine ⟨main, [], between, makes, sent, .inl rfl, ?_⟩
        rw [thenRestore_fatal _ performed fatal, verdict_singleton, fails]
        rfl
      | false =>
        refine ⟨main, [last], after, restored, sent, .inr ⟨back, last, rfl, rfl, askedBack⟩, ?_⟩
        rw [thenRestore_error back performed fatal, put, verdict_pair fails fatal]
        cases failure? last with
        | none => rfl
        | some later => rfl

/-- A command under a timeout takes a course whose verdict is the outcome, whatever the server answers. -/
theorem course_withTimeout (requires : command.requiresSession = true) (atHand : client.session = some session)
    (timeout : Option Nat) :
    ∃ sent after, Makes client sent after ∧ Course client.driver session command client.timeout timeout sent ∧
      (withTimeout timeout (run command)).perform client = (settled (verdict sent), after) := by
  by_cases same : timeout = none ∨ timeout = client.timeout
  · obtain ⟨main, after, makes, sent, _, performed⟩ := run_makes command requires atHand
    refine ⟨[main], after, makes, .plain same sent, ?_⟩
    rw [withTimeout_same same, performed, verdict_singleton]
  · obtain ⟨ms, rfl⟩ : ∃ ms, timeout = some ms := Option.ne_none_iff_exists'.mp fun none => same (.inl none)
    have differs : client.timeout ≠ some ms := fun equal => same (.inr equal.symm)
    obtain ⟨set, begun, makesSet, asked, inForce, performedSet⟩ := setTimeout_makes differs atHand
    replace performedSet : (TimedSession.setTimeout ms : Action (Client (Recorded τ)) Unit).perform client =
      (settled (failure? set), begun) := performedSet
    rw [withTimeout_other differs, Action.perform_bind, performedSet]
    cases granted : failure? set with
    | some failure =>
      refine ⟨[set], begun, makesSet, .refused asked granted, ?_⟩
      rw [verdict_singleton, granted]
      rfl
    | none =>
      have other : begun.timeout ≠ client.timeout := (inForce granted).symm ▸ differs.symm
      obtain ⟨main, more, after, makes, sent, shape, performed⟩ :=
        course_thenRestore requires (makesSet.session_eq.trans atHand) other
      rw [makesSet.driver_eq] at sent shape
      refine ⟨set :: main :: more, after, makesSet.trans makes, ?_, ?_⟩
      · rcases shape with rfl | ⟨back, last, former, rfl, askedBack⟩
        · exact .unrestored asked granted sent
        · exact .restored former asked granted sent askedBack
      · rw [verdict_cons_none granted]
        exact performed

end Client

end BrowserWait.SeleniumRc
