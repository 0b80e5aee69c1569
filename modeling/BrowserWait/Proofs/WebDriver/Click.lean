import BrowserWait.Proofs.Wait.ConditionText
import BrowserWait.Proofs.WebDriver.ElementWait

/-!
# Clicks

What a click sends, and in which order: the mark where it waits for a page, the lookup, the click on the element that
the lookup showed, and only then what its wait asks. Each of these is sent when all before it succeeded, and the first
that fails is the end (`clicks_in_order`).
-/

namespace BrowserWait

theorem World.perform_onBrowser_bind {σ α β : Type} (step : Action σ α) (next : α → Action (World σ) β)
    (world : World σ) :
    (World.onBrowser step >>= next).perform world =
      match step.perform world.browser with
      | (.ok a, browser) => (next a).perform { world with browser }
      | (.error failure, browser) => (.error failure, { world with browser }) := by
  rw [Action.perform_bind, World.onBrowser, Action.perform_onPart]
  rcases step.perform world.browser with ⟨_ | _, _⟩ <;> rfl

namespace WebDriver

open Action

variable {τ : Type}

/-! ## What a client sends -/

/-- A client some exchanges later, and otherwise the same. -/
structure Onward (client : Client (Recorded τ)) (made : List Exchange) (after : Client (Recorded τ)) : Prop where
  log_eq : after.server.exchanges = client.server.exchanges ++ made
  rest : after = { client with server := after.server }

/-- What comes of a command: without a session nothing is sent, and in one the request with an answer or none. -/
inductive Sends (client : Client (Recorded τ)) (command : Command) : List Exchange → Except Failure Json → Prop where
  | refused (sessionless : client.session = none) : Sends client command [] (.error .noSession)
  | sent {session : String} {exchange : Exchange} (atHand : client.session = some session)
    (asks : exchange.request = command.inSession client.hub session) :
    Sends client command [exchange] (answered exchange)

/-- What comes of a lookup: nothing is sent for a locator that the protocol has no name for. -/
inductive Finds (client : Client (Recorded τ)) (locator : Locator) :
    List Exchange → Except Failure ElementId → Prop where
  | unnamed (unnamed : locator.strategy.wireName? = none) :
    Finds client locator [] (.error (.invalidLocator locator.text))
  | refused {name : String} (named : locator.strategy.wireName? = some name) (sessionless : client.session = none) :
    Finds client locator [] (.error .noSession)
  | looked {name session : String} {exchange : Exchange} {result : Except Failure ElementId}
    (named : locator.strategy.wireName? = some name) (atHand : client.session = some session)
    (asks : exchange.request = (Command.findElement name locator.value).inSession client.hub session)
    (lookup : Lookup exchange.outcome result) : Finds client locator [exchange] result

section

variable {client after later : Client (Recorded τ)} {made more : List Exchange}

theorem Onward.refl (client : Client (Recorded τ)) : Onward client [] client := ⟨(List.append_nil _).symm, rfl⟩

theorem Onward.trans (first : Onward client made after) (second : Onward after more later) :
    Onward client (made ++ more) later := by
  refine ⟨?_, ?_⟩
  · rw [second.log_eq, first.log_eq, List.append_assoc]
  · rw [second.rest, first.rest]

theorem Onward.session_eq (onward : Onward client made after) : after.session = client.session := by rw [onward.rest]

theorem Onward.hub_eq (onward : Onward client made after) : after.hub = client.hub := by rw [onward.rest]

theorem Sends.of_onward {command : Command} {result : Except Failure Json} (onward : Onward client made after)
    (sends : Sends after command more result) : Sends client command more result := by
  cases sends with
  | refused sessionless => exact .refused (onward.session_eq ▸ sessionless)
  | sent atHand asks => exact .sent (onward.session_eq ▸ atHand) (onward.hub_eq ▸ asks)

/-- What was sent was the request of the command. -/
theorem Sends.of_mem {command : Command} {result : Except Failure Json} {exchange : Exchange}
    (sends : Sends client command made result) (member : exchange ∈ made) :
    Sends client command [exchange] (answered exchange) := by
  cases sends with
  | refused => cases member
  | sent atHand asks =>
    obtain rfl := List.mem_singleton.mp member
    exact .sent atHand asks

theorem Finds.of_onward {locator : Locator} {result : Except Failure ElementId} (onward : Onward client made after)
    (finds : Finds after locator more result) : Finds client locator more result := by
  cases finds with
  | unnamed unnamed => exact .unnamed unnamed
  | refused named sessionless => exact .refused named (onward.session_eq ▸ sessionless)
  | looked named atHand asks lookup =>
    exact .looked named (onward.session_eq ▸ atHand) (onward.hub_eq ▸ asks) lookup

theorem Finds.of_mem {locator : Locator} {result : Except Failure ElementId} {exchange : Exchange}
    (finds : Finds client locator made result) (member : exchange ∈ made) :
    ∃ name, locator.strategy.wireName? = some name ∧
      Sends client (.findElement name locator.value) [exchange] (answered exchange) := by
  cases finds with
  | unnamed => cases member
  | refused => cases member
  | looked named atHand asks lookup =>
    obtain rfl := List.mem_singleton.mp member
    exact ⟨_, named, .sent atHand asks⟩

end

variable [Server τ]

theorem onward_sent (request : Request) (client : Client (Recorded τ)) :
    Onward client [client.exchanged request] (client.sent request) := ⟨rfl, rfl⟩

theorem exchange_sends {command : Command} (requires : command.requiresSession = true) (client : Client (Recorded τ)) :
    ∃ made, Sends client command made ((Client.exchange command).perform client).1 ∧
      Onward client made ((Client.exchange command).perform client).2 := by
  rcases Client.exchange_cases command requires client with
    ⟨sessionless, performed⟩ | ⟨session, atHand, ⟨failure, told, performed⟩ | ⟨answer, told, performed⟩⟩
  · rw [performed]
    exact ⟨[], .refused sessionless, .refl client⟩
  · rw [performed, ← told]
    exact ⟨_, .sent atHand rfl, onward_sent _ client⟩
  · rw [performed, ← told]
    exact ⟨_, .sent atHand rfl, onward_sent _ client⟩

theorem findElement_finds (locator : Locator) (client : Client (Recorded τ)) :
    ∃ made, Finds client locator made ((Client.findElement locator).perform client).1 ∧
      Onward client made ((Client.findElement locator).perform client).2 := by
  cases named : locator.strategy.wireName? with
  | none =>
    rw [perform_findElement_unnamed named]
    exact ⟨[], .unnamed named, .refl client⟩
  | some name =>
    cases atHand : client.session with
    | none =>
      have unsent : (Client.exchange (.findElement name locator.value)).perform client = (.error .noSession, client) :=
        Client.exchange_of_failure (atHand ▸ Command.request_none rfl client.hub)
      rw [Client.findElement, perform_bind, perform_ofExcept, Locator.toWire, named]
      dsimp only
      rw [perform_bind, Client.call_perform, unsent]
      exact ⟨[], .refused named atHand, .refl client⟩
    | some session =>
      rw [perform_findElement client atHand named]
      exact ⟨_, .looked named atHand rfl (lookup_iff.mpr rfl), onward_sent _ client⟩

/-! ## What a wait asks -/

/-- The commands that a wait for a condition may send. -/
inductive Own (flavor : AjaxFlavor) : Condition → Command → Prop where
  | page : Own flavor .page (.execute (PageScript.returning PageScript.ready) [])
  | ajax : Own flavor .ajax (.execute (PageScript.returning flavor.complete) [])
  | script (expression : String) : Own flavor (.script expression) (.execute (PageScript.returning expression) [])
  | found {condition : Condition} {locator : Locator} {name : String} (about : condition.locator? = some locator)
    (named : locator.strategy.wireName? = some name) : Own flavor condition (.findElement name locator.value)
  | displayed {condition : Condition} {locator : Locator}
    (about : condition = .visible locator ∨ condition = .notVisible locator) (element : ElementId) :
    Own flavor condition (.elementDisplayed element)

/-- A client behind exchanges that are requests of some commands in its session. -/
def Asking (own : Command → Prop) (client after : Client (Recorded τ)) : Prop :=
  ∃ made, Onward client made after ∧
    ∀ exchange ∈ made, ∃ command, own command ∧ Sends client command [exchange] (answered exchange)

section

variable {own : Command → Prop} {client : Client (Recorded τ)}

omit [Server τ] in
theorem Asking.refl (own : Command → Prop) (client : Client (Recorded τ)) : Asking own client client :=
  ⟨[], .refl client, fun _ member => nomatch member⟩

omit [Server τ] in
theorem Asking.further {now after : Client (Recorded τ)} {more : List Exchange} (asking : Asking own client now)
    (onward : Onward now more after)
    (asked : ∀ exchange ∈ more, ∃ command, own command ∧ Sends now command [exchange] (answered exchange)) :
    Asking own client after := by
  obtain ⟨made, before, askedBefore⟩ := asking
  refine ⟨made ++ more, before.trans onward, fun exchange member => ?_⟩
  rcases List.mem_append.mp member with earlier | later
  · exact askedBefore exchange earlier
  · obtain ⟨command, owned, sends⟩ := asked exchange later
    exact ⟨command, owned, sends.of_onward before⟩

theorem preserves_call_asking {command : Command} (owned : own command) (requires : command.requiresSession = true) :
    Preserves (Asking own client) (Client.call command) := by
  have exchanges : Preserves (Asking own client) (Client.exchange command) := by
    intro now asking
    obtain ⟨made, sends, onward⟩ := exchange_sends requires now
    exact asking.further onward fun exchange member => ⟨command, owned, sends.of_mem member⟩
  exact exchanges.bind fun _ => preserves_pure _

theorem preserves_findElement_asking {locator : Locator}
    (owned : ∀ name, locator.strategy.wireName? = some name → own (.findElement name locator.value)) :
    Preserves (Asking own client) (Client.findElement locator) := by
  intro now asking
  obtain ⟨made, finds, onward⟩ := findElement_finds locator now
  refine asking.further onward fun exchange member => ?_
  obtain ⟨name, named, sends⟩ := finds.of_mem member
  exact ⟨_, owned name named, sends⟩

end

/-- A wait for a condition sends nothing but its own requests. -/
theorem preserves_clause_asking {flavor : AjaxFlavor} {condition : Condition} {clause : Clause (Client (Recorded τ))}
    (waits : condition.clause? flavor = some clause) (client : Client (Recorded τ)) :
    Preserves (Asking (Own flavor condition) client) clause.evaluate := by
  have truthy {expression : String} (owned : Own flavor condition (.execute (PageScript.returning expression) [])) :
      Preserves (Asking (Own flavor condition) client) (Clause.truthy expression) :=
    (preserves_call_asking owned rfl).bind fun _ => preserves_pure _
  have finds {locator : Locator} (about : condition.locator? = some locator) :
      Preserves (Asking (Own flavor condition) client) (Client.findElement locator) :=
    preserves_findElement_asking fun name named => .found about named
  have present {locator : Locator} (about : condition.locator? = some locator) :
      Preserves (Asking (Own flavor condition) client) (Clause.present locator) :=
    ((finds about).bind fun _ => preserves_pure true).mapOutcome _
  have visible {locator : Locator} (about : condition = .visible locator ∨ condition = .notVisible locator) :
      Preserves (Asking (Own flavor condition) client) (Clause.visible locator) := by
    have found : condition.locator? = some locator := by rcases about with rfl | rfl <;> rfl
    have displays (element : ElementId) :
        Preserves (Asking (Own flavor condition) client) (Client.isDisplayed element) :=
      (preserves_call_asking (.displayed about element) rfl).bind fun _ => preserves_pure _
    exact ((finds found).bind displays).mapOutcome _
  cases condition with
  | none => cases waits
  | duration ms => cases waits
  | page =>
    cases waits
    exact truthy .page
  | ajax =>
    cases waits
    exact truthy .ajax
  | script expression =>
    cases waits
    exact truthy (.script expression)
  | element locator =>
    cases waits
    exact present rfl
  | notElement locator =>
    cases waits
    exact (present rfl).bind fun _ => preserves_pure _
  | visible locator =>
    cases waits
    exact visible (.inl rfl)
  | notVisible locator =>
    cases waits
    exact (visible (.inr rfl)).bind fun _ => preserves_pure _

theorem preserves_check_asking {flavor : AjaxFlavor} {condition : Condition} {clause : Clause (Client (Recorded τ))}
    (waits : condition.clause? flavor = some clause) (client : Client (Recorded τ)) :
    Preserves (fun world => Asking (Own flavor condition) client world.browser)
      (World.onBrowser ((Expression.all [.leaf clause]).evaluate Clause.evaluate)) := by
  have leaves : ∀ other ∈ (Expression.all [.leaf clause]).leaves,
      Preserves (Asking (Own flavor condition) client) other.evaluate := by
    intro other member
    obtain rfl := List.mem_singleton.mp member
    exact preserves_clause_asking waits client
  exact (Expression.evaluate_of_closed (closed_preserves _) (.all [.leaf clause]) leaves).onBrowser

theorem waitFor_asking (settings : Settings) (condition : Condition) (timeout : Option Nat)
    (world : World (Client (Recorded τ))) :
    Asking (Own settings.flavor condition) world.browser
      ((settings.waitFor condition timeout).perform world).2.browser := by
  cases waits : condition.clause? (σ := Client (Recorded τ)) settings.flavor with
  | none =>
    cases condition with
    | none => exact .refl _ _
    | duration ms => exact .refl _ _
    | _ => cases waits
  | some clause =>
    obtain ⟨label, performed⟩ := perform_waitFor settings waits timeout world
    rw [performed]
    exact Poll.preserves_run (preserves_check_asking waits world.browser) (fun _ _ asking => asking) (.refl _ _)

/-- A script that is true for the page was answered so by the last request. -/
theorem truthy_true {expression : String} {now after : Client (Recorded τ)}
    (holds : (Clause.truthy expression).perform now = (.ok true, after)) :
    ∃ exchange answer, Onward now [exchange] after ∧
      Sends now (.execute (PageScript.returning expression) []) [exchange] (.ok answer) ∧
      ((answer.member? "value").getD .null).isTruthy = true := by
  have asks : (Browser.evaluateScript (PageScript.returning expression)).perform now =
      (Client.call (.execute (PageScript.returning expression) [])).perform now := rfl
  rw [Clause.truthy, perform_bind, asks, Client.call_perform] at holds
  rcases Client.exchange_cases (.execute (PageScript.returning expression) []) rfl now with
    ⟨_, performed⟩ | ⟨session, atHand, ⟨failure, _, performed⟩ | ⟨answer, told, performed⟩⟩
  · rw [performed] at holds
    cases holds
  · rw [performed] at holds
    cases holds
  · rw [performed] at holds
    obtain ⟨value, same⟩ := Prod.mk.inj holds
    refine ⟨_, answer, same ▸ onward_sent _ now, told ▸ .sent atHand rfl, Except.ok.inj value⟩

/-- A wait for a page ends well when a request for the page's state, sent in it, was answered so. -/
theorem waitFor_page_true (settings : Settings) (timeout : Option Nat) {world after : World (Client (Recorded τ))}
    (ready : (settings.waitFor .page timeout).perform world = (.ok true, after)) :
    ∃ waited exchange answer, Onward world.browser (waited ++ [exchange]) after.browser ∧
      Sends world.browser (.execute (PageScript.returning PageScript.ready) []) [exchange] (.ok answer) ∧
      ((answer.member? "value").getD .null).isTruthy = true := by
  have waits : Condition.page.clause? settings.flavor = some (.pageReady : Clause (Client (Recorded τ))) := rfl
  obtain ⟨label, performed⟩ := perform_waitFor settings waits timeout world
  rw [performed] at ready
  obtain ⟨success, left⟩ := Prod.mk.inj ready
  obtain ⟨progress, satisfied⟩ := Poll.Ending.eq_satisfied success
  obtain ⟨before, ⟨waited, onward, _⟩, holds⟩ := Poll.run_satisfied (preserves_check_asking waits world.browser)
    (fun _ _ asking => asking) (.refl _ _) (Prod.ext satisfied left)
  rw [World.onBrowser, perform_onPart, perform_evaluate_single] at holds
  obtain ⟨outcome, rfl⟩ := Prod.mk.inj holds
  obtain ⟨exchange, answer, last, sends, truthy⟩ := truthy_true (Prod.ext outcome rfl)
  exact ⟨waited, exchange, answer, onward.trans last, sends.of_onward onward, truthy⟩

/-! ## What a click sends -/

/-- What comes of marking the page: nothing is sent unless the click waits for a page. -/
inductive Marks (client : Client (Recorded τ)) (condition : Condition) :
    List Exchange → Except Failure Unit → Prop where
  | unneeded (other : condition ≠ .page) : Marks client condition [] (.ok ())
  | sent {made : List Exchange} {result : Except Failure Json} (page : condition = .page)
    (sends : Sends client (.execute PageScript.mark []) made result) :
    Marks client condition made (result.map fun _ => ())

/-- What comes of a click before its wait: the page is marked, the element looked up, and what was found clicked, each
when all before it succeeded. -/
inductive Approach (client : Client (Recorded τ)) (locator : Locator) (condition : Condition) :
    List Exchange → Except Failure Unit → Prop where
  | unmarked {marking : List Exchange} {failure : Failure} (marks : Marks client condition marking (.error failure)) :
    Approach client locator condition marking (.error failure)
  | unfound {marking looking : List Exchange} {failure : Failure} (marks : Marks client condition marking (.ok ()))
    (finds : Finds client locator looking (.error failure)) :
    Approach client locator condition (marking ++ looking) (.error failure)
  | clicked {marking looking clicking : List Exchange} {element : ElementId} {result : Except Failure Json}
    (marks : Marks client condition marking (.ok ())) (finds : Finds client locator looking (.ok element))
    (sends : Sends client (.clickElement element) clicking result) :
    Approach client locator condition (marking ++ looking ++ clicking) (result.map fun _ => ())

theorem call_sends (command : Command) (requires : command.requiresSession = true) (client : Client (Recorded τ)) :
    ∃ made result after, Sends client command made result ∧ Onward client made after ∧
      (Client.call command).perform client =
        (result.map fun answer => (answer.member? "value").getD .null, after) := by
  obtain ⟨made, sends, onward⟩ := exchange_sends requires client
  refine ⟨made, _, _, sends, onward, ?_⟩
  rw [Client.call_perform]
  rcases (Client.exchange command).perform client with ⟨_ | _, _⟩ <;> rfl

theorem run_sends (command : Command) (requires : command.requiresSession = true) (client : Client (Recorded τ)) :
    ∃ made result after, Sends client command made result ∧ Onward client made after ∧
      (Client.run command).perform client = (result.map fun _ => (), after) := by
  obtain ⟨made, sends, onward⟩ := exchange_sends requires client
  refine ⟨made, _, _, sends, onward, ?_⟩
  rw [Client.run_perform]
  rcases (Client.exchange command).perform client with ⟨_ | _, _⟩ <;> rfl

/-- The part of a click behind the marking of the page. -/
def Settings.press (settings : Settings) (locator : Locator) (condition : Condition) (timeout : Option Nat) :
    Action (World (Client (Recorded τ))) Bool := do
  let element ← World.onBrowser (Client.findElement locator)
  World.onBrowser (Client.clickElement element)
  settings.waitFor condition timeout

theorem click_marks (settings : Settings) (locator : Locator) (condition : Condition) (timeout : Option Nat)
    (world : World (Client (Recorded τ))) :
    ∃ made client, Onward world.browser made client ∧
      ((∃ failure, Marks world.browser condition made (.error failure) ∧
          (settings.click locator condition timeout).perform world =
            (.error failure, { world with browser := client })) ∨
        Marks world.browser condition made (.ok ()) ∧
          (settings.click locator condition timeout).perform world =
            (settings.press locator condition timeout).perform { world with browser := client }) := by
  by_cases page : condition = .page
  · have whole : (settings.click locator condition timeout : Action (World (Client (Recorded τ))) Bool) =
        World.onBrowser (Client.call (.execute PageScript.mark [])) >>= fun _ =>
          settings.press locator condition timeout := by
      rw [Settings.click, if_pos page]
      rfl
    obtain ⟨made, result, client, sends, onward, performed⟩ :=
      call_sends (.execute PageScript.mark []) rfl world.browser
    rw [whole, World.perform_onBrowser_bind, performed]
    refine ⟨made, client, onward, ?_⟩
    have marks := Marks.sent page sends
    cases result with
    | error failure => exact .inl ⟨failure, marks, rfl⟩
    | ok answer => exact .inr ⟨marks, rfl⟩
  · have whole : (settings.click locator condition timeout : Action (World (Client (Recorded τ))) Bool) =
        settings.press locator condition timeout := by
      rw [Settings.click, if_neg page]
      rfl
    rw [whole]
    exact ⟨[], world.browser, .refl _, .inr ⟨.unneeded page, rfl⟩⟩

theorem press_cases (settings : Settings) (locator : Locator) (condition : Condition) (timeout : Option Nat)
    (world : World (Client (Recorded τ))) :
    ∃ looking between, Onward world.browser looking between ∧
      ((∃ failure, Finds world.browser locator looking (.error failure) ∧
          (settings.press locator condition timeout).perform world =
            (.error failure, { world with browser := between })) ∨
        ∃ element clicking result client, Finds world.browser locator looking (.ok element) ∧
          Sends between (.clickElement element) clicking result ∧ Onward between clicking client ∧
          (settings.press locator condition timeout).perform world =
            match result with
            | .ok _ => (settings.waitFor condition timeout).perform { world with browser := client }
            | .error failure => (.error failure, { world with browser := client })) := by
  obtain ⟨looking, finds, onward⟩ := findElement_finds locator world.browser
  rw [Settings.press, World.perform_onBrowser_bind]
  rcases found : (Client.findElement locator).perform world.browser with ⟨failure | element, between⟩
  · rw [found] at finds onward
    exact ⟨looking, between, onward, .inl ⟨failure, finds, rfl⟩⟩
  · rw [found] at finds onward
    obtain ⟨clicking, result, client, sends, further, performed⟩ := run_sends (.clickElement element) rfl between
    refine ⟨looking, between, onward, .inr ⟨element, clicking, result, client, finds, sends, further, ?_⟩⟩
    dsimp only
    rw [World.perform_onBrowser_bind, Client.clickElement, performed]
    cases result <;> rfl

namespace Settings

/-- A click marks the page where it waits for one, finds one element and clicks that one, and then only waits. Each of
these is sent when all before it succeeded; where one fails its failure is the outcome, and nothing more is sent. A
click whose wait for a page ends well had a later request for the page's state answered so. -/
theorem clicks_in_order (settings : Settings) (locator : Locator) (condition : Condition) (timeout : Option Nat)
    (world : World (Client (Recorded τ))) :
    ∃ made client, Onward world.browser made client ∧
      ((∃ failure, Approach world.browser locator condition made (.error failure) ∧
          (settings.click locator condition timeout).perform world =
            (.error failure, { world with browser := client })) ∨
        Approach world.browser locator condition made (.ok ()) ∧ ∃ outcome waited after,
          (settings.click locator condition timeout).perform world = (outcome, after) ∧
          (settings.waitFor condition timeout).perform { world with browser := client } = (outcome, after) ∧
          Onward client waited after.browser ∧
          (∀ exchange ∈ waited, ∃ command, Own settings.flavor condition command ∧
            Sends client command [exchange] (answered exchange)) ∧
          (condition = .page → outcome = .ok true → ∃ exchange ∈ waited, ∃ answer,
            Sends client (.execute (PageScript.returning PageScript.ready) []) [exchange] (.ok answer) ∧
              ((answer.member? "value").getD .null).isTruthy = true)) := by
  obtain ⟨marking, marked, onward, ⟨failure, marks, performed⟩ | ⟨marks, performed⟩⟩ :=
    click_marks settings locator condition timeout world
  · exact ⟨marking, marked, onward, .inl ⟨failure, .unmarked marks, performed⟩⟩
  obtain ⟨looking, between, looks, ⟨failure, finds, pressed⟩ | ⟨element, clicking, result, client, finds, sends, clicks,
    pressed⟩⟩ := press_cases settings locator condition timeout { world with browser := marked }
  · have approach := Approach.unfound marks (finds.of_onward onward)
    exact ⟨marking ++ looking, between, onward.trans looks, .inl ⟨failure, approach, performed.trans pressed⟩⟩
  have approach := Approach.clicked marks (finds.of_onward onward) (sends.of_onward (onward.trans looks))
  refine ⟨marking ++ looking ++ clicking, client, (onward.trans looks).trans clicks, ?_⟩
  cases result with
  | error failure => exact .inl ⟨failure, approach, performed.trans pressed⟩
  | ok answer =>
    obtain ⟨waited, further, asked⟩ := waitFor_asking settings condition timeout { world with browser := client }
    refine .inr ⟨approach, _, waited, _, performed.trans pressed, rfl, further, asked, ?_⟩
    rintro rfl ready
    obtain ⟨front, exchange, told, last, asks, truthy⟩ := waitFor_page_true settings timeout (Prod.ext ready rfl)
    have same : waited = front ++ [exchange] := List.append_cancel_left (further.log_eq.symm.trans last.log_eq)
    exact ⟨exchange, same ▸ List.mem_append_right _ List.mem_cons_self, told, asks, truthy⟩

/-- A page that is there at the first look: its state was asked for behind the click. -/
theorem clicks_in_order_page :
    let answers := ["\x7b\"status\":0\x7d", "\x7b\"status\":0,\"value\":\x7b\"ELEMENT\":\"5\"\x7d\x7d",
      "\x7b\"status\":0\x7d", "\x7b\"status\":0,\"value\":true\x7d"]
    let world : World (Client (Recorded ScriptedServer)) :=
      { browser := { server := ⟨{ queued := answers.map Response.ofText }, []⟩, hub := "hub", session := some "s1" } }
    ∃ after, (({} : Settings).click (.css "#go") .page (some 100)).perform world = (.ok true, after) ∧
      ∃ exchange ∈ after.browser.server.exchanges, ∃ answer, answered exchange = .ok answer ∧
        ((answer.member? "value").getD .null).isTruthy = true := by
  intro answers world
  have ready : ((({} : Settings).click (.css "#go") .page (some 100)).perform world).1 = .ok true := by decide +kernel
  obtain ⟨made, client, _, ⟨failure, _, performed⟩ | ⟨_, outcome, waited, after, performed, _, onward, _, page⟩⟩ :=
    clicks_in_order {} (.css "#go") .page (some 100) world
  · cases (congrArg Prod.fst performed).symm.trans ready
  · obtain rfl := (congrArg Prod.fst performed).symm.trans ready
    obtain ⟨exchange, member, answer, sends, truthy⟩ := page rfl rfl
    have told : answered exchange = .ok answer := by
      generalize result : Except.ok answer = outcome at sends
      cases sends
      rfl
    exact ⟨after, performed, exchange, onward.log_eq ▸ List.mem_append_right _ member, answer, told, truthy⟩

end Settings

end WebDriver

end BrowserWait
