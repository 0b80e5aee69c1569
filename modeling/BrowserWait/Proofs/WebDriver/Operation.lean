import BrowserWait.Proofs.Session.Operation
import BrowserWait.Proofs.WebDriver.Session
import BrowserWait.WebDriver.Browser

/-!
# Operations behind a JSONWire hub

Everything a test does with a client of a hub and with the browser behind it, as data. What ordinary commands, the
setting of timeouts and the end of the session preserve, all operations preserve that begin no session
(`Operation.preserves_step`); and where these are refused, every operation is that needs a session.
-/

namespace BrowserWait.WebDriver

open Action

/-- An operation of a client. -/
inductive ClientOperation where
  | newSession
  | quit
  | setTimeout (ms : Nat)
  /-- A command that the other operations do not give, or give with more around it. -/
  | call (command : Command) (ordinary : command.isOrdinary = true)
  | navigate (url : String) (timeout : Option Nat)
  | clickElement (element : ElementId)
  | evaluateScript (script : String)
  | findElement (locator : Locator)
  | isDisplayed (element : ElementId)
  | attribute? (element : ElementId) (name : String)
  | pageSource
  | markPage
  | location
  | cookies
  | setCookie (cookie : Cookie)
  | deleteCookie (name : String)
  | reset
  | userAgent

namespace ClientOperation

variable {τ : Type} [Server τ]

/-- The step of an operation. -/
def step : ClientOperation → Action (Client τ) Unit
  | newSession => Client.newSession
  | quit => Client.quit
  | setTimeout ms => Client.setTimeout ms
  | call command _ => (Client.call command).forEffect
  | navigate url timeout => Client.navigate url timeout
  | clickElement element => Client.clickElement element
  | evaluateScript script => (Browser.evaluateScript (σ := Client τ) script).forEffect
  | findElement locator => (Client.findElement locator).forEffect
  | isDisplayed element => (Client.isDisplayed element).forEffect
  | attribute? element name => (Browser.attribute? (σ := Client τ) element name).forEffect
  | pageSource => Client.pageSource.forEffect
  | markPage => Client.markPage
  | location => Client.location.forEffect
  | cookies => Client.cookies.forEffect
  | setCookie cookie => Client.setCookie cookie
  | deleteCookie name => Client.deleteCookie name
  | reset => Client.reset
  | userAgent => Client.userAgent.forEffect

/-- Whether an operation may begin a session. -/
def begins : ClientOperation → Bool
  | newSession => true
  | _ => false

end ClientOperation

/-- An operation of a browser. -/
inductive Operation (τ : Type) [Server τ] where
  | session (use : SessionUse ClientOperation)
  | openPage (url : String) (condition : Condition) (timeout : Option Nat)
  | click (locator : Locator) (condition : Condition) (timeout : Option Nat)
  | waitFor (condition : Condition) (timeout : Option Nat)
  | waitForExpression (wait : NativeWait (Client τ)) (timeout : Option Nat)
      (uses : ∀ clause ∈ wait.root.leaves, clause.UsesOperations)
  /-- The caller raises the cancellation flag or lowers it. -/
  | cancel (raised : Bool)

namespace Operation

variable {τ : Type} [Server τ]

/-- The step of an operation. -/
def step (settings : Settings) : Operation τ → Action (World (Client τ)) Unit
  | session use => World.onBrowser (use.step ClientOperation.step)
  | openPage url condition timeout => (settings.openPage url condition timeout).forEffect
  | click locator condition timeout => (settings.click locator condition timeout).forEffect
  | waitFor condition timeout => (settings.waitFor condition timeout).forEffect
  | waitForExpression wait timeout _ => (wait.wait timeout).forEffect
  | cancel raised => modify fun world => { world with cancelled := raised }

/-- Whether an operation may begin a session. -/
def begins : Operation τ → Bool
  | session use => use.operations.any ClientOperation.begins
  | openPage .. => true
  | _ => false

/-- Whether an operation cannot do without a session. -/
def needsSession : Operation τ → Bool
  | session (.single operation) => !operation.begins
  | session (.under timeout _ _) => timeout.isSome
  | click .. => true
  | waitFor condition _ => condition.isOfBrowser
  | waitForExpression wait _ _ => wait.looks
  | openPage .. | cancel _ => false

end Operation

/-! ## What operations preserve -/

section

variable {τ : Type} [Server τ] {kept : Client τ → Prop}

/-- Ordinary commands, the setting of timeouts and the end of a session preserve a property of clients. -/
structure Stable (kept : Client τ → Prop) : Prop where
  exchange : ∀ command : Command, command.isOrdinary = true → Preserves kept (Client.exchange command)
  setTimeout : ∀ ms, Preserves kept (Client.setTimeout ms)
  quit : Preserves kept Client.quit

namespace Stable

theorem call (stable : Stable kept) {command : Command} (ordinary : command.isOrdinary = true) :
    Preserves kept (Client.call command) :=
  (stable.exchange command ordinary).bind fun _ => preserves_pure _

theorem run (stable : Stable kept) {command : Command} (ordinary : command.isOrdinary = true) :
    Preserves kept (Client.run command) :=
  (stable.call ordinary).bind fun _ => preserves_pure ()

theorem textOf (stable : Stable kept) {command : Command} (ordinary : command.isOrdinary = true) :
    Preserves kept (Client.textOf command) := by
  refine (stable.call ordinary).bind fun value => ?_
  split
  · exact preserves_pure none
  · exact preserves_pure _

theorem preserving (stable : Stable kept) : Browser.Preserving kept where
  evaluateScript _ := stable.call rfl
  findElement _ := (preserves_ofExcept _).bind fun _ => (stable.call rfl).bind fun _ => preserves_ofExcept _
  isDisplayed _ := (stable.call rfl).bind fun _ => preserves_pure _
  attribute? _ _ := stable.textOf rfl
  pageSource := (stable.textOf rfl).bind fun _ => preserves_pure _

theorem navigate (stable : Stable kept) (url : String) (timeout : Option Nat) :
    Preserves kept (Client.navigate url timeout) :=
  TimedSession.preserves_withTimeout stable.setTimeout timeout (stable.run rfl)

theorem cookies (stable : Stable kept) : Preserves kept (Client.cookies : Action (Client τ) _) := by
  refine (stable.call rfl).bind fun value => ?_
  split
  · split
    · exact preserves_pure _
    · exact preserves_throw _
  · exact preserves_throw _

end Stable

namespace ClientOperation

theorem preserves_step (stable : Stable kept) (operation : ClientOperation)
    (begins : operation.begins = true → Preserves kept (Client.newSession : Action (Client τ) Unit)) :
    Preserves kept (operation.step : Action (Client τ) Unit) := by
  have looks := stable.preserving
  cases operation with
  | newSession => exact begins rfl
  | quit => exact stable.quit
  | setTimeout ms => exact stable.setTimeout ms
  | call command ordinary => exact (stable.call ordinary).forEffect
  | navigate url timeout => exact stable.navigate url timeout
  | clickElement element => exact stable.run rfl
  | evaluateScript script => exact (looks.evaluateScript script).forEffect
  | findElement locator => exact (looks.findElement locator).forEffect
  | isDisplayed element => exact (looks.isDisplayed element).forEffect
  | attribute? element name => exact (looks.attribute? element name).forEffect
  | pageSource => exact looks.pageSource.forEffect
  | markPage => exact (looks.evaluateScript _).forEffect
  | location => exact ((stable.textOf rfl).bind fun _ => preserves_pure _).forEffect
  | cookies => exact stable.cookies.forEffect
  | setCookie cookie => exact stable.run rfl
  | deleteCookie name => exact stable.run rfl
  | reset => exact stable.run rfl
  | userAgent => exact ((stable.call rfl).bind fun _ => preserves_pure _).forEffect

end ClientOperation

theorem Stable.preserves_use (stable : Stable kept) (use : SessionUse ClientOperation)
    (begins : use.operations.any ClientOperation.begins = true →
      Preserves kept (Client.newSession : Action (Client τ) Unit)) :
    Preserves kept (use.step ClientOperation.step : Action (Client τ) Unit) := by
  refine SessionUse.preserves_step stable.setTimeout use fun operation member => ?_
  refine operation.preserves_step stable fun begun => begins ?_
  exact List.any_eq_true.mpr ⟨operation, member, begun⟩

namespace Settings

/-- A condition of the browser is waited for by a wait that looks at the browser. -/
theorem waitFor_eq (settings : Settings) {condition : Condition} (asked : condition.isOfBrowser = true) :
    ∃ wait : NativeWait (Client τ), wait.looks = true ∧
      ∀ timeout, settings.waitFor condition timeout = wait.wait timeout := by
  cases condition with
  | none => cases asked
  | duration ms => cases asked
  | _ => exact ⟨settings.newWait.append _, rfl, fun _ => rfl⟩

theorem preserves_waitFor (stable : Stable kept) (settings : Settings) (condition : Condition) (timeout : Option Nat) :
    Preserves (fun world => kept world.browser) (settings.waitFor condition timeout) := by
  by_cases asked : condition.isOfBrowser = true
  · obtain ⟨wait, looks, same⟩ := settings.waitFor_eq (τ := τ) asked
    rw [same]
    exact NativeWait.preserves_wait stable.preserving (NativeWait.usesOperations_of_looks looks) timeout
  · cases condition with
    | none => exact preserves_pure true
    | duration ms => exact preserves_get.bind fun _ => (preserves_pause _).bind fun _ => preserves_pure true
    | _ => exact absurd rfl asked

theorem preserves_openPage (stable : Stable kept) (begins : Preserves kept (Client.newSession : Action (Client τ) Unit))
    (settings : Settings) (url : String) (condition : Condition) (timeout : Option Nat) :
    Preserves (fun world => kept world.browser) (settings.openPage url condition timeout) := by
  have loads := (stable.navigate (Url.resolveIn settings.baseUrl url) timeout).onBrowser.bind fun _ =>
    settings.preserves_waitFor stable condition timeout
  refine preserves_get.bind fun world => ?_
  dsimp only
  split
  · exact begins.onBrowser.bind fun _ => loads
  · exact loads

theorem preserves_click (stable : Stable kept) (settings : Settings) (locator : Locator) (condition : Condition)
    (timeout : Option Nat) :
    Preserves (fun world => kept world.browser) (settings.click locator condition timeout) := by
  have clicksElement (element : ElementId) : Preserves kept (Client.clickElement element) := stable.run rfl
  have clicks := (stable.preserving.findElement locator).onBrowser.bind fun element =>
    (clicksElement element).onBrowser.bind fun _ => settings.preserves_waitFor stable condition timeout
  rw [click]
  split
  · exact (stable.preserving.evaluateScript _).onBrowser.bind fun _ => clicks
  · exact clicks

end Settings

namespace Operation

/-- What ordinary commands, timeouts and the end of a session preserve, every operation does that begins no session. -/
theorem preserves_step (stable : Stable kept) (settings : Settings) (operation : Operation τ)
    (begins : operation.begins = true → Preserves kept (Client.newSession : Action (Client τ) Unit)) :
    Preserves (fun world => kept world.browser) (operation.step settings) := by
  cases operation with
  | session use => exact (stable.preserves_use use begins).onBrowser
  | openPage url condition timeout =>
    exact (settings.preserves_openPage stable (begins rfl) url condition timeout).forEffect
  | click locator condition timeout => exact (settings.preserves_click stable locator condition timeout).forEffect
  | waitFor condition timeout => exact (settings.preserves_waitFor stable condition timeout).forEffect
  | waitForExpression wait timeout uses =>
    exact (NativeWait.preserves_wait stable.preserving uses timeout).forEffect
  | cancel raised => exact preserves_modify fun _ holds => holds

end Operation

end

/-! ## Where there is no session -/

section

variable {τ : Type} [Server τ] {client : Client τ} {world : World (Client τ)}

/-- A client refuses ordinary commands, timeouts and the end of the session, and has no timeout to put back. -/
structure Idle (client : Client τ) : Prop where
  exchange : ∀ command : Command, command.isOrdinary = true → Refuses client (Client.exchange command)
  setTimeout : ∀ ms, Refuses client (Client.setTimeout ms)
  quit : Refuses client Client.quit
  unset : client.timeout = none

namespace Idle

theorem call (idle : Idle client) {command : Command} (ordinary : command.isOrdinary = true) :
    Refuses client (Client.call command) :=
  (idle.exchange command ordinary).bind _

theorem run (idle : Idle client) {command : Command} (ordinary : command.isOrdinary = true) :
    Refuses client (Client.run command) :=
  (idle.call ordinary).bind _

theorem stable (idle : Idle client) : Stable (· = client) where
  exchange command ordinary := (idle.exchange command ordinary).preserves
  setTimeout ms := (idle.setTimeout ms).preserves
  quit := idle.quit.preserves

/-- A lookup is refused for its locator or for the session that is missing. -/
theorem findElement (idle : Idle client) (locator : Locator) : Refuses client (Client.findElement locator) := by
  rw [Client.findElement, Locator.toWire]
  cases locator.strategy.wireName? with
  | none => exact Refuses.bind ⟨.invalidLocator locator.text, rfl, rfl⟩ _
  | some name => exact Refuses.behind ((idle.call rfl).bind _) rfl

theorem refusing (idle : Idle client) : Browser.Refusing client where
  evaluateScript _ := idle.call rfl
  findElement locator := idle.findElement locator

end Idle

namespace ClientOperation

theorem refuses_step (idle : Idle client) {operation : ClientOperation} (goesOn : operation.begins = false) :
    Refuses client operation.step := by
  cases operation with
  | newSession => cases goesOn
  | quit => exact idle.quit
  | setTimeout ms => exact idle.setTimeout ms
  | call command ordinary => exact (idle.call ordinary).forEffect
  | navigate url timeout => exact TimedSession.refuses_withTimeout idle.unset idle.setTimeout timeout (idle.run rfl)
  | clickElement element => exact idle.run rfl
  | evaluateScript script => exact (idle.refusing.evaluateScript script).forEffect
  | findElement locator => exact (idle.findElement locator).forEffect
  | isDisplayed element => exact ((idle.call rfl).bind _).forEffect
  | attribute? element name => exact ((idle.call rfl).bind _).forEffect
  | pageSource => exact (((idle.call rfl).bind _).bind _).forEffect
  | markPage => exact (idle.refusing.evaluateScript _).forEffect
  | location => exact (((idle.call rfl).bind _).bind _).forEffect
  | cookies => exact ((idle.call rfl).bind _).forEffect
  | setCookie cookie => exact idle.run rfl
  | deleteCookie name => exact idle.run rfl
  | reset => exact idle.run rfl
  | userAgent => exact ((idle.call rfl).bind _).forEffect

end ClientOperation

namespace Operation

/-- Without a session an operation that needs one is refused. -/
theorem refuses_step (idle : Idle world.browser) (settings : Settings) {operation : Operation τ}
    (needs : operation.needsSession = true) : Refuses world (operation.step settings) := by
  cases operation with
  | session use =>
    cases use with
    | single operation => exact (operation.refuses_step idle (by simpa [needsSession] using needs)).onBrowser
    | under timeout block ending =>
      obtain ⟨ms, rfl⟩ := Option.isSome_iff_exists.mp needs
      exact (TimedSession.refuses_scoped idle.unset (idle.setTimeout ms) _).onBrowser
  | openPage url condition timeout => cases needs
  | click locator condition timeout =>
    refine Refuses.forEffect ?_
    rw [Settings.click]
    split
    · exact (idle.refusing.evaluateScript _).onBrowser.bind _
    · exact (idle.findElement locator).onBrowser.bind _
  | waitFor condition timeout =>
    obtain ⟨wait, looks, same⟩ := settings.waitFor_eq (τ := τ) needs
    refine Refuses.forEffect ?_
    rw [same]
    exact NativeWait.refuses_wait idle.refusing looks timeout
  | waitForExpression wait timeout uses => exact (NativeWait.refuses_wait idle.refusing needs timeout).forEffect
  | cancel raised => cases needs

/-- Without a session an operation that begins none leaves the client as it is. -/
theorem browser_step (idle : Idle world.browser) (settings : Settings) {operation : Operation τ}
    (goesOn : operation.begins = false) : ((operation.step settings).perform world).2.browser = world.browser := by
  refine operation.preserves_step idle.stable settings (fun begins => ?_) world rfl
  cases goesOn.symm.trans begins

end Operation

end

/-! ## Clients of a recorded hub -/

section

open SessionClient

variable {τ : Type} [Server τ]

/-- A client that has sent nothing yet. -/
def Client.unstarted (server : τ) (hub : String) (capabilities : List (String × Json)) (defaultTimeout : Nat) :
    Client (Recorded τ) :=
  { server := ⟨server, []⟩, hub, capabilities, defaultTimeout }

theorem tracking_unstarted (server : τ) (hub : String) (capabilities : List (String × Json)) (defaultTimeout : Nat) :
    Tracking (Client.unstarted server hub capabilities defaultTimeout) :=
  Dialect.tracks_nil

theorem stable_tracking : Stable (Tracking : Client (Recorded τ) → Prop) where
  exchange _ := Client.preserves_exchange
  setTimeout := preserves_setTimeout
  quit := preserves_stop

theorem idle_of_tracking {client : Client (Recorded τ)} (tracking : Tracking client)
    (sessionless : client.session = none) : Idle client where
  exchange _ ordinary := Client.refuses_exchange (Command.requiresSession_of_isOrdinary ordinary) sessionless
  setTimeout := refuses_setTimeout sessionless (tracking.timeout_eq_none sessionless)
  quit := refuses_stop sessionless
  unset := tracking.timeout_eq_none sessionless

/-- Whatever is done with a browser behind a hub, its client keeps track of its session. -/
theorem tracking_through (settings : Settings) (operations : List (Operation (Recorded τ)))
    {world : World (Client (Recorded τ))} (tracking : Tracking world.browser) :
    Tracking (through (Operation.step settings) operations world).browser := by
  have each (operation : Operation (Recorded τ)) :=
    operation.preserves_step stable_tracking settings fun _ => preserves_start
  exact kept_through each operations tracking

end

end BrowserWait.WebDriver
