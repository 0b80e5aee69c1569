import BrowserWait.Proofs.Session.Preservation
import BrowserWait.Proofs.Session.Refusal
import BrowserWait.Proofs.Session.Transcript

/-!
# Session clients

What the clients of both protocols have in common: a session and a timeout of their own, and a log of their exchanges
that tells the session and the timeout again. `Tracking` is the invariant of every client, and one exchange preserves it
(`Exchanged.tracking`); a lawful client does nothing but make exchanges, so that `timeoutKept` and `sessionKept`, which
users rely on, follow for all lawful clients at once.
-/

namespace BrowserWait

/-- A client with a session, whose exchanges are kept. -/
class SessionClient (σ : Type) extends TimedSession σ where
  /-- How the client's exchanges speak of sessions. -/
  dialect : σ → Dialect
  /-- The exchanges so far. -/
  log : σ → List Exchange
  /-- The id of the session, if there is one. -/
  session : σ → Option String
  /-- Begins a session. -/
  start : Action σ Unit
  /-- Ends the session. -/
  stop : Action σ Unit

namespace SessionClient

open Action TimedSession

variable {σ : Type} [SessionClient σ]

/-- The session and the timeout a client goes by. -/
def standing (client : σ) : Dialect.Standing := ⟨session client, sessionTimeout client⟩

/-- The session and the timeout of a client are those its log tells of. -/
def Tracking (client : σ) : Prop := (dialect client).Tracks (log client) (standing client)

/-- The timeout a client takes for the one in force is the one the server last acknowledged in the current session; and
without a session there is none. -/
structure TimeoutKept (client : σ) : Prop where
  in_force : ∀ ms, sessionTimeout client = some ms ↔ (dialect client).InForce (log client) ms
  sessionless : session client = none → sessionTimeout client = none
  unchanged : ∀ ms failure after, (setTimeout ms).perform client = (.error failure, after) →
    sessionTimeout after = sessionTimeout client

/-- The session of a client is the current one, and each request went to the session that was current at its time.
What fails to end a session or to begin one leaves the session as it is. -/
structure SessionKept (client : σ) : Prop where
  current : ∀ id, session client = some id ↔ ∃ since, (dialect client).Current (log client) id since
  addressed : (dialect client).Addressed (log client)
  stopped : ∀ outcome after, stop.perform client = (outcome, after) →
    session after = match outcome with
      | .ok _ => none
      | .error _ => session client
  started : ∀ outcome after, start.perform client = (outcome, after) →
    ∃ beginning more, log after = log client ++ beginning :: more ∧
      (dialect client).asks beginning.request = true ∧
      session after = ((dialect client).begins? beginning).or (session client) ∧
      ((dialect client).begins? beginning = none → more = [] ∧ ∃ failure, outcome = .error failure)

/-! ## What clients do -/

/-- One exchange takes a client from one state to another: its request asks for a session or goes to the one at hand,
and the client goes by what the exchange makes of its standing. -/
structure Exchanged (client : σ) (exchange : Exchange) (after : σ) : Prop where
  dialect_eq : dialect after = dialect client
  log_eq : log after = log client ++ [exchange]
  belongs : (dialect client).asks exchange.request = true ∨
    ∃ id, session client = some id ∧ (dialect client).Addresses id exchange.request
  standing_eq : standing after = (dialect client).after (standing client) exchange

/-- A client goes on in its session: what it sends more is behind what it has sent, and it keeps track if it did. -/
structure GoesOn (client after : σ) : Prop where
  session_eq : session after = session client
  log_grows : ∃ more, log after = log client ++ more
  tracking : Tracking client → Tracking after

/-- Setting a timeout does nothing when it is in force already, is refused without a session, and else takes one
exchange, which counts if the server acknowledges it. -/
class LawfulTimeout (σ : Type) [SessionClient σ] : Prop where
  setTimeout_cases : ∀ (ms : Nat) (client : σ),
    sessionTimeout client = some ms ∧ (setTimeout ms).perform client = (.ok (), client) ∨
      session client = none ∧ (setTimeout ms).perform client = (.error .noSession, client) ∨
      ∃ exchange after, (session client).isSome = true ∧ Exchanged client exchange after ∧
        session after = session client ∧ ((∃ failure, (setTimeout ms).perform client = (.error failure, after) ∧
            sessionTimeout after = sessionTimeout client) ∨
          (setTimeout ms).perform client = (.ok (), after) ∧ sessionTimeout after = some ms)

/-- A lawful client ends its session with an exchange that the server acknowledges, and begins one with an exchange that
gives its id; then it goes on in it. -/
class Lawful (σ : Type) [SessionClient σ] : Prop extends LawfulTimeout σ where
  stop_cases : ∀ client : σ,
    session client = none ∧ stop.perform client = (.error .noSession, client) ∨
      ∃ exchange after, (session client).isSome = true ∧ Exchanged client exchange after ∧
        ((∃ failure, stop.perform client = (.error failure, after) ∧ session after = session client) ∨
          stop.perform client = (.ok (), after) ∧ session after = none)
  start_cases : ∀ client : σ, ∃ beginning begun, Exchanged client beginning begun ∧
    (dialect client).asks beginning.request = true ∧
      ((dialect client).begins? beginning = none ∧ session begun = session client ∧
          (∃ failure, start.perform client = (.error failure, begun)) ∨
        (∃ id, (dialect client).begins? beginning = some id) ∧ GoesOn begun (start.perform client).2)

variable {client after later : σ} {exchange : Exchange}

theorem GoesOn.refl (client : σ) : GoesOn client client := ⟨rfl, ⟨[], (List.append_nil _).symm⟩, id⟩

theorem GoesOn.trans (first : GoesOn client after) (second : GoesOn after later) : GoesOn client later := by
  obtain ⟨more, grown⟩ := first.log_grows
  obtain ⟨rest, grownAgain⟩ := second.log_grows
  refine ⟨second.session_eq.trans first.session_eq, ⟨more ++ rest, ?_⟩, second.tracking ∘ first.tracking⟩
  rw [grownAgain, grown, List.append_assoc]

/-- A step by which every client goes on preserves having gone on. -/
theorem GoesOn.preserves {α : Type} {step : Action σ α} (each : ∀ client, GoesOn client (step.perform client).2)
    (client : σ) : Preserves (GoesOn client) step :=
  fun now goesOn => goesOn.trans (each now)

theorem Exchanged.session_of_begins {id : String} (exchanged : Exchanged client exchange after)
    (begins : (dialect client).begins? exchange = some id) : session after = some id := by
  have fresh := exchanged.standing_eq.trans (Dialect.after_of_begins (standing client) begins)
  exact congrArg Dialect.Standing.session fresh

/-- An exchange preserves the invariant. -/
theorem Exchanged.tracking (exchanged : Exchanged client exchange after) (tracking : Tracking client) :
    Tracking after := by
  have tracks := Dialect.Tracks.concat tracking exchanged.belongs
  rw [← exchanged.standing_eq, ← exchanged.log_eq, ← exchanged.dialect_eq] at tracks
  exact tracks

theorem Exchanged.goesOn (exchanged : Exchanged client exchange after) (same : session after = session client) :
    GoesOn client after :=
  ⟨same, ⟨[exchange], exchanged.log_eq⟩, exchanged.tracking⟩

section

variable [LawfulTimeout σ]

theorem goesOn_setTimeout (ms : Nat) (client : σ) : GoesOn client ((setTimeout ms).perform client).2 := by
  rcases LawfulTimeout.setTimeout_cases ms client with ⟨_, performed⟩ | ⟨_, performed⟩ |
    ⟨exchange, after, _, exchanged, same, ⟨failure, performed, _⟩ | ⟨performed, _⟩⟩
  · rw [performed]
    exact .refl client
  · rw [performed]
    exact .refl client
  · rw [performed]
    exact exchanged.goesOn same
  · rw [performed]
    exact exchanged.goesOn same

theorem refuses_setTimeout (sessionless : session client = none) (unset : sessionTimeout client = none) (ms : Nat) :
    Refuses client (setTimeout ms : Action σ Unit) := by
  rcases LawfulTimeout.setTimeout_cases ms client with ⟨set, _⟩ | ⟨_, performed⟩ | ⟨_, _, atHand, _⟩
  · cases unset.symm.trans set
  · exact ⟨.noSession, rfl, performed⟩
  · rw [sessionless] at atHand
    cases atHand

theorem preserves_setTimeout (ms : Nat) : Preserves Tracking (setTimeout ms : Action σ Unit) :=
  fun client => (goesOn_setTimeout ms client).tracking

end

variable [Lawful σ]

theorem refuses_stop (sessionless : session client = none) : Refuses client (stop : Action σ Unit) := by
  rcases Lawful.stop_cases client with ⟨_, performed⟩ | ⟨_, _, atHand, _⟩
  · exact ⟨.noSession, rfl, performed⟩
  · rw [sessionless] at atHand
    cases atHand

theorem preserves_stop : Preserves Tracking (stop : Action σ Unit) := by
  intro client tracking
  rcases Lawful.stop_cases client with
    ⟨_, performed⟩ | ⟨exchange, after, _, exchanged, ⟨failure, performed, _⟩ | ⟨performed, _⟩⟩
  · rw [performed]
    exact tracking
  · rw [performed]
    exact exchanged.tracking tracking
  · rw [performed]
    exact exchanged.tracking tracking

theorem preserves_start : Preserves Tracking (start : Action σ Unit) := by
  intro client tracking
  obtain ⟨beginning, begun, exchanged, _, ⟨_, _, failure, performed⟩ | ⟨_, goesOn⟩⟩ := Lawful.start_cases client
  · rw [performed]
    exact exchanged.tracking tracking
  · exact goesOn.tracking (exchanged.tracking tracking)

theorem timeoutKept (tracking : Tracking client) : TimeoutKept client where
  in_force _ := tracking.timeout_iff
  sessionless := tracking.timeout_eq_none
  unchanged ms failure after failed := by
    rcases LawfulTimeout.setTimeout_cases ms client with ⟨_, performed⟩ | ⟨_, performed⟩ |
      ⟨exchange, after, _, exchanged, _, ⟨failure, performed, same⟩ | ⟨performed, _⟩⟩
    · cases performed.symm.trans failed
    · cases performed.symm.trans failed
      rfl
    · cases performed.symm.trans failed
      exact same
    · cases performed.symm.trans failed

theorem sessionKept (tracking : Tracking client) : SessionKept client where
  current _ := tracking.session_iff
  addressed := tracking.addressed
  stopped outcome after stopped := by
    rcases Lawful.stop_cases client with
      ⟨_, performed⟩ | ⟨exchange, after, _, exchanged, ⟨failure, performed, same⟩ | ⟨performed, gone⟩⟩
    · cases performed.symm.trans stopped
      rfl
    · cases performed.symm.trans stopped
      exact same
    · cases performed.symm.trans stopped
      exact gone
  started outcome after started := by
    obtain ⟨beginning, begun, exchanged, asks, ⟨none, same, failure, performed⟩ | ⟨⟨id, begins⟩, goesOn⟩⟩ :=
      Lawful.start_cases client
    · cases performed.symm.trans started
      refine ⟨beginning, [], exchanged.log_eq, asks, ?_, fun _ => ⟨rfl, failure, rfl⟩⟩
      rw [none, Option.none_or]
      exact same
    · rw [started] at goesOn
      obtain ⟨more, grown⟩ := goesOn.log_grows
      refine ⟨beginning, more, ?_, asks, ?_, ?_⟩
      · rw [grown, exchanged.log_eq, List.append_assoc]
        rfl
      · rw [goesOn.session_eq, exchanged.session_of_begins begins, begins]
        rfl
      · intro none
        cases begins.symm.trans none

end SessionClient

end BrowserWait
