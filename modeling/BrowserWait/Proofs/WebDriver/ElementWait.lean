import BrowserWait.Proofs.Poll.Schedule
import BrowserWait.Proofs.WebDriver.Classification
import BrowserWait.Proofs.WebDriver.Session
import BrowserWait.WebDriver.Browser

/-!
# Waits for elements

When a wait for an element ends, and when one for its absence. `Lookup` says what the outcome of a single request shows
of the element, whatever comes back; `Decides` and `Undecided` say which outcomes end a wait and which let it go on.
A wait sends the same request once a tick and ends as `Ends` has it: at the first outcome that decides it, or undecided
when its time is up.
-/

namespace BrowserWait

namespace Recorded

variable {τ : Type} [Server τ]

/-- A server that got the same request a number of times. -/
def asked (request : Request) (server : Recorded τ) : (times : Nat) → Recorded τ
  | 0 => server
  | times + 1 => (send request (asked request server times)).2

/-- What comes of a request that a server got a number of times before. -/
def reply (request : Request) (server : Recorded τ) (times : Nat) : Except Failure Response :=
  (send request (asked request server times)).1

theorem exchanges_asked (request : Request) (server : Recorded τ) (times : Nat) :
    (asked request server times).exchanges =
      server.exchanges ++ (List.range times).map fun tick => ⟨request, reply request server tick⟩ := by
  induction times with
  | zero => rw [asked, List.range_zero, List.map_nil, List.append_nil]
  | succ times ih =>
    rw [List.range_succ, List.map_append, ← List.append_assoc, ← ih]
    rfl

end Recorded

namespace WebDriver

/-! ## What a lookup shows -/

/-- The element that a value refers to. -/
def reference? (value : Json) : Option String :=
  ((value.member? elementKey).or (value.member? standardElementKey)).bind Json.text?

/-- What the outcome of a find-element request shows: the element, or why there is none. -/
inductive Lookup : Except Failure Response → Except Failure ElementId → Prop where
  | found {response : Response} {value : Json} {id : String} (succeeds : Succeeds response value)
    (refers : reference? value = some id) : Lookup (.ok response) (.ok ⟨id⟩)
  | unreferenced {response : Response} {value : Json} (succeeds : Succeeds response value)
    (refers : reference? value = none) :
    Lookup (.ok response) (.error (.invalidResponse ("element reference missing in " ++ value.compact)))
  | refused {response : Response} {answer : Json} {code : Nat} (told : Tells response answer)
    (coded : code? answer = some code) (nonzero : code ≠ 0) :
    Lookup (.ok response) (.error (.ofAnswer (.ofCode code) (errorText? answer)))
  | unexplained {response : Response} {answer : Json} (told : Tells response answer) (uncoded : code? answer = none)
    (failing : response.isSuccess = false) :
    Lookup (.ok response) (.error (.ofAnswer .unknownError (errorText? answer)))
  | garbled {response : Response} (written : Text.trim response.body.toList ≠ [])
    (untold : ∀ answer, ¬ Tells response answer) (success : response.isSuccess = true) :
    Lookup (.ok response)
      (.error (.invalidResponse ("expected JSON, got: " ++ String.ofList (Text.trim response.body.toList))))
  | rejected {response : Response} (untold : ∀ answer, ¬ Tells response answer)
    (failing : response.isSuccess = false) :
    Lookup (.ok response) (.error (.invalidResponse ("Invalid Request: " ++ response.body)))
  | unsent (failure : Failure) : Lookup (.error failure) (.error failure)

/-- What the client takes from the outcome of a find-element request. -/
def shown (outcome : Except Failure Response) : Except Failure ElementId :=
  match outcome >>= classify with
  | .ok answer => Client.elementOf ((answer.member? "value").getD .null)
  | .error failure => .error failure

section

variable {response : Response} {value : Json}

theorem elementOf_eq (value : Json) :
    Client.elementOf value =
      match reference? value with
      | some id => .ok ⟨id⟩
      | none => .error (.invalidResponse ("element reference missing in " ++ value.compact)) := rfl

theorem shown_ok (response : Response) :
    shown (.ok response) =
      match classify response with
      | .ok answer => Client.elementOf ((answer.member? "value").getD .null)
      | .error failure => .error failure := rfl

theorem shown_of_succeeds (succeeds : Succeeds response value) : shown (.ok response) = Client.elementOf value := by
  obtain ⟨answer, classified, rfl⟩ := classify_of_succeeds succeeds
  rw [shown_ok, classified]

theorem shown_of_error {failure : Failure} (classified : classify response = .error failure) :
    shown (.ok response) = .error failure := by
  rw [shown_ok, classified]

end

theorem Lookup.shown_eq {outcome : Except Failure Response} {result : Except Failure ElementId}
    (lookup : Lookup outcome result) : shown outcome = result := by
  cases lookup with
  | found succeeds refers => rw [shown_of_succeeds succeeds, elementOf_eq, refers]
  | unreferenced succeeds refers => rw [shown_of_succeeds succeeds, elementOf_eq, refers]
  | refused told coded nonzero =>
    refine shown_of_error ?_
    rw [classify_of_tells told, classifyValue_of_code coded, if_neg nonzero]
  | unexplained told uncoded failing =>
    refine shown_of_error ?_
    rw [classify_of_tells told, classifyValue_uncoded uncoded, failing]
    rfl
  | garbled written untold success =>
    refine shown_of_error ?_
    rw [classify_untold written untold, if_pos success]
  | @rejected response untold failing =>
    -- a blank body and one that is no JSON are refused in the same words
    have rejects : classify response = .error (.invalidResponse ("Invalid Request: " ++ response.body)) := by
      by_cases blank : Text.trim response.body.toList = []
      · rw [classify_blank blank, failing]
        rfl
      · rw [classify_untold blank untold, failing]
        rfl
    exact shown_of_error rejects
  | unsent failure => rfl

theorem lookup_of_succeeds {response : Response} {value : Json} (succeeds : Succeeds response value) :
    ∃ result, Lookup (.ok response) result := by
  cases refers : reference? value with
  | some id => exact ⟨_, .found succeeds refers⟩
  | none => exact ⟨_, .unreferenced succeeds refers⟩

theorem exists_lookup (outcome : Except Failure Response) : ∃ result, Lookup outcome result := by
  cases outcome with
  | error failure => exact ⟨_, .unsent failure⟩
  | ok response =>
    cases told : Json.ofChars? (Text.trim response.body.toList) with
    | some answer =>
      cases coded : code? answer with
      | some code =>
        by_cases zero : code = 0
        · exact lookup_of_succeeds (.zero told (zero ▸ coded))
        · exact ⟨_, .refused told coded zero⟩
      | none =>
        cases success : response.isSuccess with
        | true => exact lookup_of_succeeds (.uncoded told coded success)
        | false => exact ⟨_, .unexplained told coded success⟩
    | none =>
      have untold : ∀ answer, ¬ Tells response answer := Option.eq_none_iff_forall_ne_some.mp told
      cases success : response.isSuccess with
      | false => exact ⟨_, .rejected untold success⟩
      | true =>
        by_cases blank : Text.trim response.body.toList = []
        · exact lookup_of_succeeds (.blank blank success)
        · exact ⟨_, .garbled blank untold success⟩

/-- Every outcome shows one thing, the one that the client takes from it. -/
theorem lookup_iff {outcome : Except Failure Response} {result : Except Failure ElementId} :
    Lookup outcome result ↔ shown outcome = result := by
  constructor
  · exact Lookup.shown_eq
  · rintro rfl
    obtain ⟨result, lookup⟩ := exists_lookup outcome
    rwa [lookup.shown_eq]

/-! ## What a lookup decides -/

/-- The condition that an element is there, or that it is not. -/
def sought (present : Bool) (locator : Locator) : Condition :=
  if present then .element locator else .notElement locator

/-- The outcome of a request ends a wait for an element, or for its absence, with this result. -/
inductive Decides (present : Bool) (outcome : Except Failure Response) : Except Failure Bool → Prop where
  | found {element : ElementId} (lookup : Lookup outcome (.ok element)) (wanted : present = true) :
    Decides present outcome (.ok true)
  | missing {failure : Failure} (lookup : Lookup outcome (.error failure))
    (kind : failure.hasStatus .noSuchElement = true) (unwanted : present = false) : Decides present outcome (.ok true)
  | failed {failure : Failure} (lookup : Lookup outcome (.error failure)) (lasting : failure.isTransient = false) :
    Decides present outcome (.error failure)

/-- The outcome of a request lets a wait for an element, or for its absence, go on. -/
inductive Undecided (present : Bool) (outcome : Except Failure Response) : Prop where
  | found {element : ElementId} (lookup : Lookup outcome (.ok element)) (unwanted : present = false)
  | missing {failure : Failure} (lookup : Lookup outcome (.error failure))
    (kind : failure.hasStatus .noSuchElement = true) (wanted : present = true)
  | retried {failure : Failure} (lookup : Lookup outcome (.error failure))
    (kind : failure.hasStatus .noSuchElement = false) (retryable : failure.isTransient = true)

/-- What the clause about an element makes of a lookup. -/
def looked (present : Bool) : Except Failure ElementId → Except Failure Bool
  | .ok _ => .ok present
  | .error failure => if failure.hasStatus .noSuchElement then .ok !present else .error failure

theorem isTransient_of_noSuchElement {failure : Failure} (kind : failure.hasStatus .noSuchElement = true) :
    failure.isTransient = true := by
  rw [Failure.hasStatus, beq_iff_eq] at kind
  rw [Failure.isTransient, kind]
  rfl

section

variable {present : Bool} {outcome : Except Failure Response}

theorem undecided_iff : Undecided present outcome ↔ Poll.NotYet (looked present (shown outcome)) := by
  constructor
  · rintro (⟨lookup, unwanted⟩ | ⟨lookup, kind, wanted⟩ | ⟨lookup, kind, retryable⟩)
    · rw [lookup.shown_eq, unwanted]
      rfl
    · rw [lookup.shown_eq, looked, if_pos kind, wanted]
      rfl
    · rw [lookup.shown_eq, looked, if_neg (Bool.not_eq_true _ ▸ kind)]
      exact retryable
  · intro pending
    cases shows : shown outcome with
    | ok element =>
      rw [shows] at pending
      exact .found (lookup_iff.mpr shows) pending
    | error failure =>
      rw [shows, looked] at pending
      cases kind : failure.hasStatus .noSuchElement with
      | true =>
        rw [if_pos kind] at pending
        exact .missing (lookup_iff.mpr shows) kind (by simpa [Poll.NotYet] using pending)
      | false =>
        rw [if_neg (Bool.not_eq_true _ ▸ kind)] at pending
        exact .retried (lookup_iff.mpr shows) kind pending

theorem decides_iff {result : Except Failure Bool} :
    Decides present outcome result ↔
      looked present (shown outcome) = result ∧ ¬ Poll.NotYet (looked present (shown outcome)) := by
  constructor
  · rintro (⟨lookup, wanted⟩ | ⟨lookup, kind, unwanted⟩ | ⟨lookup, lasting⟩)
    · rw [lookup.shown_eq, wanted]
      exact ⟨rfl, Poll.not_notYet_true⟩
    · rw [lookup.shown_eq, looked, if_pos kind, unwanted]
      exact ⟨rfl, Poll.not_notYet_true⟩
    · have other : ¬ _ := fun kind => Bool.false_ne_true (lasting.symm.trans (isTransient_of_noSuchElement kind))
      rw [lookup.shown_eq, looked, if_neg other]
      exact ⟨rfl, Poll.not_notYet_error lasting⟩
  · rintro ⟨rfl, decided⟩
    cases shows : shown outcome with
    | ok element =>
      rw [shows] at decided
      cases present with
      | true => exact .found (lookup_iff.mpr shows) rfl
      | false => exact absurd rfl decided
    | error failure =>
      rw [shows, looked] at decided
      rw [looked]
      cases kind : failure.hasStatus .noSuchElement with
      | true =>
        rw [if_pos kind] at decided
        rw [if_pos rfl]
        cases present with
        | true => exact absurd rfl decided
        | false => exact .missing (lookup_iff.mpr shows) kind rfl
      | false =>
        rw [if_neg (Bool.not_eq_true _ ▸ kind)] at decided
        rw [if_neg Bool.false_ne_true]
        exact .failed (lookup_iff.mpr shows) (Bool.eq_false_iff.mpr decided)

end

/-! ## When a wait ends -/

/-- How a wait for an element, or for its absence, ends, given what comes of its requests: the number of requests before
the last one, and the result. -/
inductive Ends (present : Bool) (replies : Nat → Except Failure Response) (last : Nat) :
    (made : Nat) → Except Failure Bool → Prop where
  | decided {made : Nat} {result : Except Failure Bool} (early : made ≤ last)
    (first : ∀ earlier < made, Undecided present (replies earlier)) (decides : Decides present (replies made) result) :
    Ends present replies last made result
  | spent (undecided : ∀ earlier ≤ last, Undecided present (replies earlier)) :
    Ends present replies last last (.ok false)

section

variable {present : Bool} {replies : Nat → Except Failure Response} {last : Nat}

theorem Decides.not_undecided {outcome : Except Failure Response} {result : Except Failure Bool}
    (decides : Decides present outcome result) : ¬ Undecided present outcome :=
  fun undecided => (decides_iff.mp decides).2 (undecided_iff.mp undecided)

theorem Ends.undecided {made : Nat} {result : Except Failure Bool} (ends : Ends present replies last made result) :
    ∀ earlier < made, Undecided present (replies earlier) := by
  cases ends with
  | decided early first decides => exact first
  | spent undecided => exact fun earlier less => undecided earlier (Nat.le_of_lt less)

theorem Ends.le_of_ends {made other : Nat} {result result' : Except Failure Bool}
    (ends : Ends present replies last made result) (ends' : Ends present replies last other result') :
    made ≤ other := by
  by_contra less
  have undecided := ends.undecided other (Nat.lt_of_not_le less)
  cases ends' with
  | decided early first decides => exact decides.not_undecided undecided
  | spent _ =>
    cases ends with
    | decided early first decides => exact less early
    | spent _ => exact less (Nat.le_refl _)

theorem Ends.unique {made other : Nat} {result result' : Except Failure Bool}
    (ends : Ends present replies last made result) (ends' : Ends present replies last other result') :
    made = other ∧ result = result' := by
  obtain rfl := Nat.le_antisymm (ends.le_of_ends ends') (ends'.le_of_ends ends)
  refine ⟨rfl, ?_⟩
  cases ends with
  | decided early first decides =>
    cases ends' with
    | decided early' first' decides' => exact (decides_iff.mp decides).1.symm.trans (decides_iff.mp decides').1
    | spent undecided => exact absurd (undecided _ (Nat.le_refl _)) decides.not_undecided
  | spent undecided =>
    cases ends' with
    | decided early first decides => exact absurd (undecided _ (Nat.le_refl _)) decides.not_undecided
    | spent _ => rfl

end

/-! ## A look at the server -/

section

variable {σ : Type} [Browser σ]

/-- The clause that an element is there, or that it is not. -/
def soughtClause (present : Bool) (locator : Locator) : Clause σ :=
  if present then .elementPresent locator else .elementNotPresent locator

theorem perform_soughtClause (present : Bool) (locator : Locator) (state : σ) :
    (soughtClause present locator).evaluate.perform state =
      (looked present ((Browser.findElement locator).perform state).1,
        ((Browser.findElement locator).perform state).2) := by
  have found : (Clause.present locator).perform state =
      (looked true ((Browser.findElement locator).perform state).1,
        ((Browser.findElement locator).perform state).2) := by
    rw [Clause.present, Action.perform_mapOutcome, Action.perform_bind]
    rcases (Browser.findElement locator).perform state with ⟨outcome, after⟩
    cases outcome with
    | ok element => rfl
    | error failure =>
      simp only [Clause.foldMissing, looked, List.any_cons, List.any_nil, Bool.or_false, Bool.not_true]
  cases present with
  | true => exact found
  | false =>
    show (do return !(← Clause.present locator) : Action σ Bool).perform state = _
    rw [Action.perform_bind, found]
    rcases (Browser.findElement locator).perform state with ⟨outcome, after⟩
    cases outcome with
    | ok element => rfl
    | error failure =>
      cases kind : failure.hasStatus .noSuchElement <;> simp [looked, kind]

/-- The check of a wait for an element, or for its absence. -/
def look (present : Bool) (locator : Locator) : Action (World σ) Bool :=
  World.onBrowser ((Expression.all [.leaf (soughtClause present locator)]).evaluate Clause.evaluate)

omit [Browser σ] in
/-- A conjunction of one clause is that clause. -/
theorem perform_evaluate_single {α : Type} (check : α → Action σ Bool) (a : α) (state : σ) :
    ((Expression.all [.leaf a]).evaluate check).perform state = (check a).perform state := by
  rw [Expression.evaluate, Expression.evaluateAll, Expression.evaluate, Action.perform_bind]
  rcases (check a).perform state with ⟨outcome, after⟩
  cases outcome with
  | ok holds =>
    cases holds with
    | true => rfl
    | false => rfl
  | error failure => rfl

theorem perform_look (present : Bool) (locator : Locator) (world : World σ) :
    (look present locator).perform world =
      (looked present ((Browser.findElement locator).perform world.browser).1,
        { world with browser := ((Browser.findElement locator).perform world.browser).2 }) := by
  rw [look, World.onBrowser, Action.perform_onPart, perform_evaluate_single, perform_soughtClause]

theorem instant_look (present : Bool) (locator : Locator) :
    Poll.Instant (look present locator : Action (World σ) Bool) := by
  intro world
  rw [perform_look]

end

section

variable {τ : Type} [Server τ]

theorem perform_findElement_unnamed {locator : Locator} (unnamed : locator.strategy.wireName? = none)
    (client : Client (Recorded τ)) :
    (Client.findElement locator).perform client = (.error (.invalidLocator locator.text), client) := by
  rw [Client.findElement, Action.perform_bind, Action.perform_ofExcept, Locator.toWire, unnamed]

theorem perform_findElement (client : Client (Recorded τ)) {session name : String} {locator : Locator}
    (atHand : client.session = some session) (named : locator.strategy.wireName? = some name) :
    (Client.findElement locator).perform client =
      let request := (Command.findElement name locator.value).inSession client.hub session
      (shown (client.exchanged request).outcome, client.sent request) := by
  have addressed : (Command.findElement name locator.value).request client.hub client.session =
      .ok ((Command.findElement name locator.value).inSession client.hub session) :=
    atHand ▸ Command.request_some rfl client.hub session
  rw [Client.findElement, Action.perform_bind, Action.perform_ofExcept, Locator.toWire, named]
  dsimp only
  rw [Action.perform_bind, Client.call_perform, Client.exchange_of_request addressed, answered, shown]
  cases (client.exchanged _).outcome >>= classify with
  | ok answer => rfl
  | error failure => rfl

/-- A wait for the clause of a condition polls under the time that it is given, if it is given one. -/
theorem perform_waitFor (settings : Settings) {condition : Condition} {clause : Clause (Client τ)}
    (waits : condition.clause? settings.flavor = some clause) (timeout : Option Nat) (world : World (Client τ)) :
    let options : PollOptions := { settings.poll with timeout := timeout.or settings.poll.timeout }
    let polled := Poll.run options (Poll.effectiveTimeout options world)
      (World.onBrowser ((Expression.all [.leaf clause]).evaluate Clause.evaluate)) world
    ∃ label, (settings.waitFor condition timeout).perform world =
      ((polled.1.result label).map WaitResult.success, polled.2) := by
  intro options polled
  have same : settings.waitFor condition timeout = (settings.newWait.append clause).wait timeout := by
    cases condition <;> cases waits <;> rfl
  have polls : ((settings.newWait.append clause).waitResult timeout).perform world =
      (polled.1.result (settings.newWait.append clause).text, polled.2) := rfl
  refine ⟨(settings.newWait.append clause).text, ?_⟩
  rw [same, NativeWait.wait, Action.perform_bind, polls]
  cases polled.1.result (settings.newWait.append clause).text with
  | ok result => rfl
  | error failure => rfl

/-- The poll options of a wait with a time of its own. -/
def Settings.pollFor (settings : Settings) (timeout : Nat) : PollOptions :=
  { settings.poll with timeout := some timeout }

theorem perform_waitFor_sought (settings : Settings) (present : Bool) (locator : Locator) (timeout : Nat)
    (world : World (Client τ)) :
    ∃ label, (settings.waitFor (sought present locator) (some timeout)).perform world =
      (((Poll.run (settings.pollFor timeout) timeout (look present locator) world).1.result label).map
          WaitResult.success,
        (Poll.run (settings.pollFor timeout) timeout (look present locator) world).2) := by
  have waits : (sought present locator).clause? settings.flavor =
      some (soughtClause present locator : Clause (Client τ)) := by
    cases present with
    | true => rfl
    | false => rfl
  exact perform_waitFor settings waits (some timeout) world

/-! ## The requests of a wait -/

section

variable {present : Bool} {locator : Locator} {name session : String} {world : World (Client (Recorded τ))}

/-- The request that a client in a session makes to find an element. -/
def Client.finding (client : Client (Recorded τ)) (session name value : String) : Request :=
  (Command.findElement name value).inSession client.hub session

/-- What comes of the requests that a client makes to find an element, one after another. -/
def Client.replies (client : Client (Recorded τ)) (session name value : String) : Nat → Except Failure Response :=
  Recorded.reply (client.finding session name value) client.server

/-- A client that made the request to find an element a number of times. -/
def Client.searched (client : Client (Recorded τ)) (session name value : String) (times : Nat) : Client (Recorded τ) :=
  { client with server := .asked (client.finding session name value) client.server times }

theorem perform_findElement_searched {client : Client (Recorded τ)} (atHand : client.session = some session)
    (named : locator.strategy.wireName? = some name) (times : Nat) :
    (Client.findElement locator).perform (client.searched session name locator.value times) =
      (shown (client.replies session name locator.value times),
        client.searched session name locator.value (times + 1)) :=
  perform_findElement (client.searched session name locator.value times) atHand named

theorem browser_before (frequency : Nat) (atHand : world.browser.session = some session)
    (named : locator.strategy.wireName? = some name) (made : Nat) :
    (Poll.before frequency (look present locator) world made).browser =
      world.browser.searched session name locator.value made := by
  induction made with
  | zero => rfl
  | succ made ih =>
    have next : (Poll.before frequency (look present locator) world (made + 1)).browser =
        ((look present locator).perform (Poll.before frequency (look present locator) world made)).2.browser := rfl
    rw [next, perform_look, ih]
    exact congrArg Prod.snd (perform_findElement_searched atHand named made)

theorem outcome_look (present : Bool) (frequency : Nat) (atHand : world.browser.session = some session)
    (named : locator.strategy.wireName? = some name) (made : Nat) :
    Poll.outcome frequency (look present locator) world made =
      looked present (shown (world.browser.replies session name locator.value made)) := by
  rw [Poll.outcome, perform_look, browser_before frequency atHand named]
  exact congrArg (fun performed => looked present performed.1) (perform_findElement_searched atHand named made)

theorem exchanges_left (frequency : Nat) (atHand : world.browser.session = some session)
    (named : locator.strategy.wireName? = some name) (made : Nat) :
    (Poll.left frequency (look present locator) world made).browser.server.exchanges =
      world.browser.server.exchanges ++ (List.range (made + 1)).map fun tick =>
        ⟨world.browser.finding session name locator.value, world.browser.replies session name locator.value tick⟩ := by
  have next : (Poll.left frequency (look present locator) world made).browser =
      (Poll.before frequency (look present locator) world (made + 1)).browser := rfl
  rw [next, browser_before frequency atHand named]
  exact Recorded.exchanges_asked _ _ _

theorem not_givenUp {σ : Type} {settings : Settings} (uncancellable : settings.poll.cancellable = false)
    (timeout : Nat) (world : World σ) : ¬ Poll.GivenUp (settings.pollFor timeout) world :=
  fun givenUp => Bool.false_ne_true (uncancellable.symm.trans givenUp.1)

section

variable {settings : Settings} {timeout : Nat} {label : String}

theorem undecided_of_not_endsAt (uncancellable : settings.poll.cancellable = false)
    (atHand : world.browser.session = some session) (named : locator.strategy.wireName? = some name) {made : Nat}
    (goesOn : ∀ result phase after,
      ¬ Poll.EndsAt (settings.pollFor timeout) timeout label (look present locator) world made result phase after) :
    Undecided present (world.browser.replies session name locator.value made) := by
  have free := not_givenUp uncancellable timeout (Poll.before settings.poll.frequency (look present locator) world made)
  rw [undecided_iff, ← outcome_look present settings.poll.frequency atHand named]
  rcases Poll.outcome_cases (Poll.outcome settings.poll.frequency (look present locator) world made) with
    holds | ⟨failure, fails, lasting⟩ | pending
  · exact absurd (.satisfied free holds) (goesOn _ _ _)
  · exact absurd (.failed free fails lasting) (goesOn _ _ _)
  · exact pending

theorem ends_of_endsAt (uncancellable : settings.poll.cancellable = false)
    (atHand : world.browser.session = some session) (named : locator.strategy.wireName? = some name) {made : Nat}
    {result : Except Failure WaitResult} {phase : Poll.Phase} {after : World (Client (Recorded τ))}
    (early : made ≤ timeout ⌈/⌉ settings.poll.frequency)
    (first : ∀ earlier < made, Undecided present (world.browser.replies session name locator.value earlier))
    (ends : Poll.EndsAt (settings.pollFor timeout) timeout label (look present locator) world made result phase after) :
    after = Poll.left settings.poll.frequency (look present locator) world made ∧
      Ends present (world.browser.replies session name locator.value) (timeout ⌈/⌉ settings.poll.frequency) made
        (result.map WaitResult.success) := by
  have shows := outcome_look present settings.poll.frequency atHand named made
  cases ends with
  | cancelled givenUp => exact absurd givenUp (not_givenUp uncancellable timeout _)
  | satisfied free holds =>
    refine ⟨rfl, .decided early first (decides_iff.mpr ?_)⟩
    rw [← shows]
    exact ⟨holds, holds ▸ Poll.not_notYet_true⟩
  | failed free fails lasting =>
    refine ⟨rfl, .decided early first (decides_iff.mpr ?_)⟩
    rw [← shows]
    exact ⟨fails, fails ▸ Poll.not_notYet_error lasting⟩
  | timedOut free pending last =>
    have undecided : Undecided present (world.browser.replies session name locator.value made) :=
      undecided_iff.mpr (shows ▸ pending)
    -- time runs out behind the last check, which decided nothing either
    obtain rfl : made = timeout ⌈/⌉ settings.poll.frequency := last
    refine ⟨rfl, .spent ?_⟩
    intro earlier le
    rcases Nat.lt_or_eq_of_le le with less | rfl
    · exact first earlier less
    · exact undecided

end

/-- A wait ends in some way that its replies tell, with one request for each tick up to there. -/
theorem waitFor_sought_ends {settings : Settings} (positive : 1 ≤ settings.poll.frequency)
    (uncancellable : settings.poll.cancellable = false) (present : Bool) (timeout : Nat)
    (atHand : world.browser.session = some session) (named : locator.strategy.wireName? = some name) :
    ∃ made result after,
      Ends present (world.browser.replies session name locator.value) (timeout ⌈/⌉ settings.poll.frequency) made
          result ∧
        (settings.waitFor (sought present locator) (some timeout)).perform world = (result, after) ∧
        after.browser.server.exchanges =
          world.browser.server.exchanges ++ (List.range (made + 1)).map (fun tick =>
            ⟨world.browser.finding session name locator.value,
              world.browser.replies session name locator.value tick⟩) ∧
        after.clock = world.clock + made * settings.poll.frequency := by
  obtain ⟨label, performed⟩ := perform_waitFor_sought settings present locator timeout world
  obtain ⟨made, ending, after, early, whole, here, first⟩ :=
    Poll.run_endsAt (show 1 ≤ (settings.pollFor timeout).frequency from positive) (instant_look present locator) label
      timeout world
  have undecided : ∀ earlier < made, Undecided present (world.browser.replies session name locator.value earlier) :=
    fun earlier less => undecided_of_not_endsAt uncancellable atHand named (first earlier less)
  obtain ⟨rfl, ends⟩ := ends_of_endsAt uncancellable atHand named early undecided here
  refine ⟨made, _, _, ends, ?_, exchanges_left _ atHand named made, here.clock_eq (instant_look present locator)⟩
  rw [performed, whole]

end

theorem waitFor_unnamed {settings : Settings} (uncancellable : settings.poll.cancellable = false) (present : Bool)
    {locator : Locator} (unnamed : locator.strategy.wireName? = none) (timeout : Nat)
    (world : World (Client (Recorded τ))) :
    (settings.waitFor (sought present locator) (some timeout)).perform world =
      (.error (.invalidLocator locator.text), world) := by
  have fails : (look present locator).perform world = (.error (.invalidLocator locator.text), world) := by
    have found : (Browser.findElement locator).perform world.browser =
        (.error (.invalidLocator locator.text), world.browser) := perform_findElement_unnamed unnamed world.browser
    rw [perform_look, found]
    rfl
  have attempted : Poll.attempt (settings.pollFor timeout) timeout (look present locator) {} world =
      (.inl (.aborted (.invalidLocator locator.text)), ((look present locator).perform world).2) :=
    Poll.attempt_of_error (not_givenUp uncancellable timeout world) (congrArg Prod.fst fails) rfl
  obtain ⟨label, performed⟩ := perform_waitFor_sought settings present locator timeout world
  have whole : Poll.run (settings.pollFor timeout) timeout (look present locator) world =
      (.aborted (.invalidLocator locator.text), world) := by
    rw [Poll.run, Poll.attempts, attempted, fails]
  rw [performed, whole]
  rfl

/-! ## Waits for elements -/

namespace Settings

/-- A wait for an element, or for its absence, is refused for a locator that the protocol has no name for before a
request is sent. Any other sends the same find-element request once a tick and ends as its replies tell: there is a way
it ends, and whichever that is, the wait ends in it with one request for each tick up to there. -/
theorem element_waits_end (settings : Settings) (present : Bool) (locator : Locator) (timeout : Nat)
    {world : World (Client (Recorded τ))} {session : String} (atHand : world.browser.session = some session)
    (positive : 1 ≤ settings.poll.frequency) (uncancellable : settings.poll.cancellable = false) :
    (locator.strategy = .value ∨ locator.strategy = .label →
        (settings.waitFor (sought present locator) (some timeout)).perform world =
          (.error (.invalidLocator locator.text), world)) ∧
      (¬ (locator.strategy = .value ∨ locator.strategy = .label) →
        ∃ name, locator.strategy.wireName? = some name ∧
          let request := world.browser.finding session name locator.value
          let replies := world.browser.replies session name locator.value
          let last := timeout ⌈/⌉ settings.poll.frequency
          (∃ made result, Ends present replies last made result) ∧
            ∀ made result, Ends present replies last made result →
              ∃ after, (settings.waitFor (sought present locator) (some timeout)).perform world = (result, after) ∧
                after.browser.server.exchanges = world.browser.server.exchanges ++
                  (List.range (made + 1)).map (fun tick => ⟨request, replies tick⟩) ∧
                after.clock = world.clock + made * settings.poll.frequency) := by
  constructor
  · intro unnamed
    exact waitFor_unnamed uncancellable present (Strategy.wireName?_eq_none_iff.mpr unnamed) timeout world
  · intro nameable
    obtain ⟨name, named⟩ := Option.ne_none_iff_exists'.mp (mt Strategy.wireName?_eq_none_iff.mp nameable)
    obtain ⟨made, result, after, ends, performed⟩ :=
      waitFor_sought_ends positive uncancellable present timeout atHand named
    refine ⟨name, named, ⟨made, result, ends⟩, ?_⟩
    intro other result' ends'
    obtain ⟨rfl, rfl⟩ := ends.unique ends'
    exact ⟨after, performed⟩

/-- An element that is missing at first is there one tick later. -/
theorem element_waits_end_found :
    let answers : List Response :=
      [⟨500, "\x7b\"status\":7\x7d"⟩, .ofText "\x7b\"status\":0,\"value\":\x7b\"ELEMENT\":\"e1\"\x7d\x7d"]
    let settings : Settings := { poll := { frequency := 100 } }
    let world : World (Client (Recorded ScriptedServer)) :=
      { browser := { server := ⟨{ queued := answers }, []⟩, hub := "hub", session := some "s1" } }
    world.browser.session = some "s1" ∧ 1 ≤ settings.poll.frequency ∧ settings.poll.cancellable = false ∧
      ∃ after, (settings.waitFor (sought true (.css "#menu")) (some 250)).perform world = (.ok true, after) ∧
        after.browser.server.requests.length = 2 ∧ after.clock = 100 := by
  intro answers settings world
  have atHand : world.browser.session = some "s1" := rfl
  have positive : 1 ≤ settings.poll.frequency := by decide
  have uncancellable : settings.poll.cancellable = false := rfl
  refine ⟨atHand, positive, uncancellable, ?_⟩
  obtain ⟨name, _, _, waits⟩ :=
    (settings.element_waits_end true (.css "#menu") 250 atHand positive uncancellable).2 (by decide)
  have missing : Tells ⟨500, "\x7b\"status\":7\x7d"⟩ (.ofMembers [("status", .natural 7)]) := by decide +kernel
  have there : Tells (.ofText "\x7b\"status\":0,\"value\":\x7b\"ELEMENT\":\"e1\"\x7d\x7d")
      (.ofMembers [("status", .natural 0), ("value", .ofMembers [("ELEMENT", .string "e1")])]) := by decide +kernel
  have first : ∀ earlier < 1, Undecided true (world.browser.replies "s1" name "#menu" earlier) := by
    intro earlier less
    obtain rfl : earlier = 0 := Nat.lt_one_iff.mp less
    exact .missing (.refused missing rfl (by decide)) rfl rfl
  have second : Decides true (world.browser.replies "s1" name "#menu" 1) (.ok true) :=
    .found (.found (.zero there rfl) rfl) rfl
  have early : 1 ≤ 250 ⌈/⌉ 100 := by
    rw [Nat.ceilDiv_eq_add_pred_div]
    decide
  obtain ⟨after, performed, exchanges, clock⟩ := waits 1 (.ok true) (.decided early first second)
  refine ⟨after, performed, ?_, clock⟩
  rw [Recorded.requests, exchanges]
  rfl

end Settings

end

end WebDriver

end BrowserWait
