import BrowserWait.Proofs.SeleniumRc.Session
import BrowserWait.Proofs.Session.Operation
import BrowserWait.Proofs.Wait.Agreement
import BrowserWait.SeleniumRc.Browser

/-!
# Operations behind a Selenium RC driver

Everything a test does with a client of a driver and with the browser behind it, as data. What ordinary commands, the
setting of timeouts and the end of the session preserve, all operations preserve that begin no session
(`Operation.preserves_step`); and where these are refused, every operation is that needs a session.
-/

namespace BrowserWait.SeleniumRc

open Action

/-- An operation of a client. -/
inductive ClientOperation where
  | start
  | testComplete
  | setTimeout (ms : Nat)
  /-- A command that the other operations do not give, or give with more around it. -/
  | call (command : Command) (ordinary : command.isOrdinary = true)
  | location
  | pageSource
  | cookies
  | setCookie (cookie : Cookie)
  | deleteCookie (name : String)
  | reset

namespace ClientOperation

variable {τ : Type} [Server τ]

/-- The step of an operation. -/
def step : ClientOperation → Action (Client τ) Unit
  | start => Client.start
  | testComplete => Client.testComplete
  | setTimeout ms => Client.setTimeout ms
  | call command _ => (Client.call command).forEffect
  | location => Client.location.forEffect
  | pageSource => Client.pageSource.forEffect
  | cookies => Client.cookies.forEffect
  | setCookie cookie => Client.setCookie cookie
  | deleteCookie name => Client.deleteCookie name
  | reset => Client.reset

/-- Whether an operation may begin a session. -/
def begins : ClientOperation → Bool
  | start => true
  | _ => false

end ClientOperation

/-- An operation of a browser. -/
inductive Operation where
  | session (use : SessionUse ClientOperation)
  | openPage (url : String) (condition : Condition) (timeout : Option Nat)
  | waitFor (condition : Condition) (timeout : Option Nat)
  | waitForExpression (wait : ScriptWait) (timeout : Option Nat)

namespace Operation

variable {τ : Type} [Server τ]

/-- The step of an operation. -/
def step (settings : Settings) : Operation → Action (World (Client τ)) Unit
  | session use => World.onBrowser (use.step ClientOperation.step)
  | openPage url condition timeout => (settings.openPage url condition timeout).forEffect
  | waitFor condition timeout => (settings.waitFor condition timeout).forEffect
  | waitForExpression wait timeout => World.onBrowser (Client.waitForExpression wait timeout).forEffect

/-- Whether an operation may begin a session. -/
def begins : Operation → Bool
  | session use => use.operations.any ClientOperation.begins
  | openPage .. => true
  | waitFor .. | waitForExpression .. => false

/-- Whether an operation cannot do without a session. -/
def needsSession : Operation → Bool
  | session (.single operation) => !operation.begins
  | session (.under timeout _ _) => timeout.isSome
  | openPage .. => false
  | waitFor condition _ => condition.isOfBrowser
  | waitForExpression wait _ => wait.deferred.isNone && !wait.isEmpty

end Operation

/-! ## What operations preserve -/

section

variable {τ : Type} [Server τ] {kept : Client τ → Prop}

/-- Ordinary commands, the setting of timeouts and the end of a session preserve a property of clients. -/
structure Stable (kept : Client τ → Prop) : Prop where
  call : ∀ command : Command, command.isOrdinary = true → Preserves kept (Client.call command)
  setTimeout : ∀ ms, Preserves kept (Client.setTimeout ms)
  testComplete : Preserves kept Client.testComplete

namespace Stable

theorem run (stable : Stable kept) {command : Command} (ordinary : command.isOrdinary = true) :
    Preserves kept (Client.run command) :=
  (stable.call command ordinary).bind fun _ => preserves_pure ()

theorem waitForElement (stable : Stable kept) (locator : Locator) (present : Bool) (timeout : Option Nat) :
    Preserves kept (Client.waitForElement locator present timeout) := by
  refine TimedSession.preserves_withTimeout stable.setTimeout timeout (stable.run ?_)
  cases present with
  | true => rfl
  | false => rfl

theorem waitForExpression (stable : Stable kept) (wait : ScriptWait) (timeout : Option Nat) :
    Preserves kept (Client.waitForExpression wait timeout) := by
  refine (preserves_ofExcept _).bind fun script => ?_
  split
  · exact preserves_pure true
  · exact preserves_get.bind fun _ => (stable.run rfl).mapOutcome _

end Stable

namespace ClientOperation

theorem preserves_step (stable : Stable kept) (operation : ClientOperation)
    (begins : operation.begins = true → Preserves kept (Client.start : Action (Client τ) Unit)) :
    Preserves kept (operation.step : Action (Client τ) Unit) := by
  cases operation with
  | start => exact begins rfl
  | testComplete => exact stable.testComplete
  | setTimeout ms => exact stable.setTimeout ms
  | call command ordinary => exact (stable.call command ordinary).forEffect
  | location => exact (stable.call _ rfl).forEffect
  | pageSource => exact ((stable.call _ rfl).bind fun _ => preserves_pure _).forEffect
  | cookies => exact ((stable.call _ rfl).bind fun _ => preserves_pure _).forEffect
  | setCookie cookie => exact stable.run rfl
  | deleteCookie name => exact stable.run rfl
  | reset => exact stable.run rfl

end ClientOperation

theorem Stable.preserves_use (stable : Stable kept) (use : SessionUse ClientOperation)
    (begins : use.operations.any ClientOperation.begins = true →
      Preserves kept (Client.start : Action (Client τ) Unit)) :
    Preserves kept (use.step ClientOperation.step : Action (Client τ) Unit) := by
  refine SessionUse.preserves_step stable.setTimeout use fun operation member => ?_
  refine operation.preserves_step stable fun begun => begins ?_
  exact List.any_eq_true.mpr ⟨operation, member, begun⟩

namespace Settings

theorem preserves_waitFor (stable : Stable kept) (settings : Settings) (condition : Condition) (timeout : Option Nat) :
    Preserves (fun world => kept world.browser) (settings.waitFor condition timeout) := by
  refine preserves_get.bind fun world => ?_
  cases condition with
  | none => exact preserves_pure true
  | duration ms => exact (preserves_pause _).bind fun _ => preserves_pure true
  | page => exact ((stable.run rfl).mapOutcome _).onBrowser
  | element locator => exact ((stable.waitForElement locator true timeout).mapOutcome _).onBrowser
  | notElement locator => exact ((stable.waitForElement locator false timeout).mapOutcome _).onBrowser
  | ajax => exact ((stable.run rfl).mapOutcome _).onBrowser
  | script expression => exact ((stable.run rfl).mapOutcome _).onBrowser
  | visible locator => exact (stable.waitForExpression _ timeout).onBrowser
  | notVisible locator => exact (stable.waitForExpression _ timeout).onBrowser

/-- The URL a browser is launched against does not matter to the property. -/
theorem preserves_ensureStarted (begins : Preserves kept (Client.start : Action (Client τ) Unit))
    (anywhere : ∀ client url, kept client → kept { client with browserUrl := url }) (url : String) :
    Preserves kept (ensureStarted url : Action (Client τ) Unit) := by
  refine preserves_get.bind fun client => ?_
  split
  · refine (preserves_modify fun client holds => ?_).bind fun _ => begins
    split
    · exact anywhere client url holds
    · exact holds
  · exact preserves_pure ()

/-- The part of opening a page behind the launch of a browser. -/
def load (settings : Settings) (url : String) (condition : Condition) (timeout : Option Nat) :
    Action (World (Client τ)) Bool := do
  World.onBrowser (TimedSession.withTimeout timeout (Client.run (.open url)))
  if condition = .page then return true
  settings.waitFor condition timeout

theorem openPage_eq (settings : Settings) (url : String) (condition : Condition) (timeout : Option Nat) :
    (settings.openPage url condition timeout : Action (World (Client τ)) Bool) =
      World.onBrowser (ensureStarted (Url.resolveIn settings.baseUrl url)) >>= fun _ =>
        settings.load (Url.resolveIn settings.baseUrl url) condition timeout := rfl

theorem preserves_load (stable : Stable kept) (settings : Settings) (url : String) (condition : Condition)
    (timeout : Option Nat) : Preserves (fun world => kept world.browser) (settings.load url condition timeout) := by
  have loads : Preserves kept (Client.run (.open url)) := stable.run rfl
  have loadsInTime := TimedSession.preserves_withTimeout stable.setTimeout timeout loads
  refine loadsInTime.onBrowser.bind fun _ => ?_
  split
  · exact preserves_pure true
  · exact settings.preserves_waitFor stable condition timeout

theorem preserves_openPage (stable : Stable kept)
    (launches : ∀ url, Preserves kept (ensureStarted url : Action (Client τ) Unit)) (settings : Settings) (url : String)
    (condition : Condition) (timeout : Option Nat) :
    Preserves (fun world => kept world.browser) (settings.openPage url condition timeout) :=
  (launches _).onBrowser.bind fun _ => settings.preserves_load stable _ condition timeout

end Settings

namespace Operation

/-- What ordinary commands, timeouts and the end of a session preserve, every operation does that begins no session. -/
theorem preserves_step (stable : Stable kept) (settings : Settings) (operation : Operation)
    (begins : operation.begins = true → Preserves kept (Client.start : Action (Client τ) Unit) ∧
      ∀ url, Preserves kept (Settings.ensureStarted url : Action (Client τ) Unit)) :
    Preserves (fun world => kept world.browser) (operation.step settings) := by
  cases operation with
  | session use => exact (stable.preserves_use use fun begun => (begins begun).1).onBrowser
  | openPage url condition timeout =>
    exact (settings.preserves_openPage stable (begins rfl).2 url condition timeout).forEffect
  | waitFor condition timeout => exact (settings.preserves_waitFor stable condition timeout).forEffect
  | waitForExpression wait timeout => exact (stable.waitForExpression wait timeout).forEffect.onBrowser

end Operation

end

/-! ## Where there is no session -/

theorem waitFailed_passes (condition : String) (ms : Nat) {failure : Failure} (own : failure.status? = none) :
    waitFailed condition ms failure = failure := by
  cases failure with
  | remote status message => cases own
  | _ => rfl

section

variable {τ : Type} [Server τ] {client : Client τ} {world : World (Client τ)}

/-- A client refuses ordinary commands, timeouts and the end of the session, and has no timeout to put back. -/
structure Idle (client : Client τ) : Prop where
  call : ∀ command : Command, command.isOrdinary = true → Refuses client (Client.call command)
  setTimeout : ∀ ms, Refuses client (Client.setTimeout ms)
  testComplete : Refuses client Client.testComplete
  unset : client.timeout = none

namespace Idle

theorem run (idle : Idle client) {command : Command} (ordinary : command.isOrdinary = true) :
    Refuses client (Client.run command) :=
  (idle.call command ordinary).bind _

theorem stable (idle : Idle client) : Stable (· = client) where
  call command ordinary := (idle.call command ordinary).preserves
  setTimeout ms := (idle.setTimeout ms).preserves
  testComplete := idle.testComplete.preserves

omit [Server τ] in
theorem asWait (condition : String) (ms : Nat) {step : Action (Client τ) Unit} (refuses : Refuses client step) :
    Refuses client (Client.asWait condition ms step) :=
  refuses.mapOutcome fun _ own => congrArg Except.error (waitFailed_passes condition ms own)

theorem waitForElement (idle : Idle client) (locator : Locator) (present : Bool) (timeout : Option Nat) :
    Refuses client (Client.waitForElement locator present timeout) := by
  refine TimedSession.refuses_withTimeout idle.unset idle.setTimeout timeout (idle.run ?_)
  cases present with
  | true => rfl
  | false => rfl

theorem waitForExpression (idle : Idle client) {wait : ScriptWait} (sound : wait.deferred = none)
    (asked : wait.isEmpty = false) (timeout : Option Nat) : Refuses client (Client.waitForExpression wait timeout) := by
  cases compiled : wait.compile with
  | error failure =>
    rw [ScriptWait.compile, sound] at compiled
    cases compiled
  | ok script =>
    have filled : script ≠ "" := by
      rintro rfl
      cases asked.symm.trans ((ScriptWait.compile_eq_empty_iff sound).mp compiled)
    refine Refuses.behind (a := script) ?_ (by rw [compiled]; rfl)
    rw [if_neg filled]
    exact Refuses.behind (asWait _ _ (idle.run rfl)) (perform_get client)

end Idle

namespace ClientOperation

theorem refuses_step (idle : Idle client) {operation : ClientOperation} (goesOn : operation.begins = false) :
    Refuses client operation.step := by
  cases operation with
  | start => cases goesOn
  | testComplete => exact idle.testComplete
  | setTimeout ms => exact idle.setTimeout ms
  | call command ordinary => exact (idle.call command ordinary).forEffect
  | location => exact (idle.call _ rfl).forEffect
  | pageSource => exact ((idle.call _ rfl).bind _).forEffect
  | cookies => exact ((idle.call _ rfl).bind _).forEffect
  | setCookie cookie => exact idle.run rfl
  | deleteCookie name => exact idle.run rfl
  | reset => exact idle.run rfl

end ClientOperation

theorem Settings.refuses_waitFor (idle : Idle world.browser) (settings : Settings) {condition : Condition}
    (asked : condition.isOfBrowser = true) (timeout : Option Nat) :
    Refuses world (settings.waitFor condition timeout) := by
  refine Refuses.behind (a := world) ?_ (perform_get world)
  cases condition with
  | none => cases asked
  | duration ms => cases asked
  | page => exact (Idle.asWait _ _ (idle.run rfl)).onBrowser
  | element locator => exact (Idle.asWait _ _ (idle.waitForElement locator true timeout)).onBrowser
  | notElement locator => exact (Idle.asWait _ _ (idle.waitForElement locator false timeout)).onBrowser
  | ajax => exact (Idle.asWait _ _ (idle.run rfl)).onBrowser
  | script expression => exact (Idle.asWait _ _ (idle.run rfl)).onBrowser
  | visible locator => exact (idle.waitForExpression rfl rfl timeout).onBrowser
  | notVisible locator => exact (idle.waitForExpression rfl rfl timeout).onBrowser

namespace Operation

/-- Without a session an operation that needs one is refused. -/
theorem refuses_step (idle : Idle world.browser) (settings : Settings) {operation : Operation}
    (needs : operation.needsSession = true) : Refuses world (operation.step settings) := by
  cases operation with
  | session use =>
    cases use with
    | single operation => exact (operation.refuses_step idle (by simpa [needsSession] using needs)).onBrowser
    | under timeout block ending =>
      obtain ⟨ms, rfl⟩ := Option.isSome_iff_exists.mp needs
      exact (TimedSession.refuses_scoped idle.unset (idle.setTimeout ms) _).onBrowser
  | openPage url condition timeout => cases needs
  | waitFor condition timeout => exact (settings.refuses_waitFor idle needs timeout).forEffect
  | waitForExpression wait timeout =>
    rw [needsSession, Bool.and_eq_true, Option.isNone_iff_eq_none, Bool.not_eq_true'] at needs
    exact (idle.waitForExpression needs.1 needs.2 timeout).forEffect.onBrowser

/-- Without a session an operation that begins none leaves the client as it is. -/
theorem browser_step (idle : Idle world.browser) (settings : Settings) {operation : Operation}
    (goesOn : operation.begins = false) : ((operation.step settings).perform world).2.browser = world.browser := by
  refine operation.preserves_step idle.stable settings (fun begins => ?_) world rfl
  cases goesOn.symm.trans begins

end Operation

end

/-! ## Clients of a recorded driver -/

section

open SessionClient

variable {τ : Type} [Server τ]

/-- A client that has sent nothing yet. -/
def Client.unstarted (server : τ) (driver browser browserUrl launchOptions : String) (defaultTimeout : Nat) :
    Client (Recorded τ) :=
  { server := ⟨server, []⟩, driver, browser, browserUrl, launchOptions, defaultTimeout }

theorem tracking_unstarted (server : τ) (driver browser browserUrl launchOptions : String) (defaultTimeout : Nat) :
    Tracking (Client.unstarted server driver browser browserUrl launchOptions defaultTimeout) :=
  Dialect.tracks_nil

theorem stable_tracking : Stable (Tracking : Client (Recorded τ) → Prop) where
  call _ := Client.preserves_call
  setTimeout := preserves_setTimeout
  testComplete := preserves_stop

theorem idle_of_tracking {client : Client (Recorded τ)} (tracking : Tracking client)
    (sessionless : client.session = none) : Idle client where
  call _ ordinary := Client.refuses_call (Command.requiresSession_of_isOrdinary ordinary) sessionless
  setTimeout := refuses_setTimeout sessionless (tracking.timeout_eq_none sessionless)
  testComplete := refuses_stop sessionless
  unset := tracking.timeout_eq_none sessionless

/-- Whatever is done with a browser behind a driver, its client keeps track of its session. -/
theorem tracking_through (settings : Settings) (operations : List Operation)
    {world : World (Client (Recorded τ))} (tracking : Tracking world.browser) :
    Tracking (through (Operation.step settings) operations world).browser := by
  have anywhere (client : Client (Recorded τ)) (url : String) (holds : Tracking client) :
      Tracking { client with browserUrl := url } := holds
  have each (operation : Operation) := operation.preserves_step stable_tracking settings fun _ =>
    ⟨preserves_start, Settings.preserves_ensureStarted preserves_start anywhere⟩
  exact kept_through each operations tracking

end

end BrowserWait.SeleniumRc
