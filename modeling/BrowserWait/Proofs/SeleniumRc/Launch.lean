import BrowserWait.Proofs.SeleniumRc.Operation

/-!
# What browsers are launched against

A client that was given no URL to launch a browser against takes the one that is to be opened. It then keeps it: the URL
of a launch is the first one that any launch before carried, also behind a launch that failed and behind the end of the
session, and only where there was none it is the URL being opened (`launched_against_first`).
-/

namespace BrowserWait.SeleniumRc

open Action

/-! ## Reading launches -/

/-- The URL against which a request asks to launch a browser. -/
def launchUrl? (request : Request) : Option String :=
  if dialect.asks request then request.formField? "2" else none

/-- The URLs of all launches asked for, in order. -/
def launchUrls (log : List Exchange) : List String := log.filterMap fun exchange => launchUrl? exchange.request

/-- The first URL of a launch; an empty one is none. -/
def carried? (log : List Exchange) : Option String := (launchUrls log).find? (· ≠ "")

/-- No request asks for a launch. -/
def Launchless (made : List Exchange) : Prop := ∀ exchange ∈ made, dialect.asks exchange.request = false

section

variable {log made : List Exchange} {exchange : Exchange} {url : String}

theorem launchUrls_append (log made : List Exchange) : launchUrls (log ++ made) = launchUrls log ++ launchUrls made :=
  List.filterMap_append

theorem launchUrls_eq_nil (launchless : Launchless made) : launchUrls made = [] :=
  List.filterMap_eq_nil_iff.mpr fun exchange member => if_neg (launchless exchange member ▸ Bool.false_ne_true)

theorem carried?_append (launchless : Launchless made) : carried? (log ++ made) = carried? log := by
  rw [carried?, launchUrls_append, launchUrls_eq_nil launchless, List.append_nil, carried?]

/-- A launch more counts where none did before. -/
theorem carried?_concat (launches : launchUrl? exchange.request = some url) :
    carried? (log ++ [exchange]) = (carried? log).or (if url = "" then none else some url) := by
  have single : launchUrls [exchange] = [url] := by simp [launchUrls, launches]
  rw [carried?, launchUrls_append, List.find?_append, ← carried?, single]
  by_cases empty : url = "" <;> simp [empty]

theorem ne_empty_of_carried? (carried : carried? log = some url) : url ≠ "" := by
  have holds := List.find?_some carried
  exact of_decide_eq_true holds

end

/-! ## Steps without a launch -/

section

variable {τ : Type}

/-- A client later, that asked for no launch in between and differs in what concerns its session only. -/
structure Quiet (client after : Client (Recorded τ)) : Prop where
  rest : after =
    { client with server := after.server, session := after.session, timeout := after.timeout, agent := after.agent }
  log_grows : ∃ made, after.server.exchanges = client.server.exchanges ++ made ∧ Launchless made

namespace Quiet

variable {client now after : Client (Recorded τ)}

theorem refl (client : Client (Recorded τ)) : Quiet client client :=
  ⟨rfl, [], (List.append_nil _).symm, List.forall_mem_nil _⟩

theorem trans (first : Quiet client now) (second : Quiet now after) : Quiet client after := by
  obtain ⟨made, grown, launchless⟩ := first.log_grows
  obtain ⟨more, grownAgain, launchlessAgain⟩ := second.log_grows
  refine ⟨?_, made ++ more, ?_, List.forall_mem_append.mpr ⟨launchless, launchlessAgain⟩⟩
  · rw [second.rest, first.rest]
  · rw [grownAgain, grown, List.append_assoc]

/-- The session, its timeout and the browser's name do not matter. -/
theorem told (quiet : Quiet client now) (session : Option String) (timeout : Option Nat) (agent : Option String) :
    Quiet client { now with session, timeout, agent } := by
  refine ⟨?_, quiet.log_grows⟩
  rw [quiet.rest]

end Quiet

variable [Server τ]

theorem quiet_call {command : Command} (requires : command.requiresSession = true) (client : Client (Recorded τ)) :
    Quiet client ((Client.call command).perform client).2 := by
  cases atHand : client.session with
  | none =>
    rw [Client.call_sessionless requires atHand]
    exact .refl client
  | some session =>
    rw [Client.call_inSession requires atHand]
    exact ⟨rfl, [_], rfl, List.forall_mem_singleton.mpr (asks_inSession requires client.driver session)⟩

/-- Only the beginning of a session asks for a launch. -/
theorem stable_quiet (client : Client (Recorded τ)) : Stable (Quiet client) := by
  have called (command : Command) (requires : command.requiresSession = true) :
      Preserves (Quiet client) (Client.call command) := fun now quiet => quiet.trans (quiet_call requires now)
  have ran (command : Command) (requires : command.requiresSession = true) :
      Preserves (Quiet client) (Client.run command) := (called command requires).bind fun _ => preserves_pure ()
  refine ⟨fun command ordinary => called command (Command.requiresSession_of_isOrdinary ordinary), fun ms => ?_, ?_⟩
  · have puts : Preserves (Quiet client) (modify fun now => { now with timeout := some ms }) :=
      preserves_modify fun now quiet => quiet.told now.session (some ms) now.agent
    refine preserves_get.bind fun now => ?_
    dsimp only
    split
    · exact (ran _ rfl).bind fun _ => puts
    · exact puts
  · exact (ran _ rfl).bind fun _ => preserves_modify fun now quiet => quiet.told none none now.agent

/-- Behind its first request the beginning of a session asks for no other launch. -/
theorem quiet_start (client : Client (Recorded τ)) :
    Quiet (client.sent client.beginning) (Client.start.perform client).2 := by
  have stable := stable_quiet (client.sent client.beginning)
  rw [Client.start, perform_bind, perform_get]
  dsimp only
  rw [← Client.launch]
  -- the first request is the one that asks for a launch, so all is compared with the client behind that request
  refine kept_bind (by rw [Client.call_launch]; exact .refl _) fun session => ?_
  refine (preserves_modify fun now quiet => quiet.told (some session) none now.agent).bind fun _ => ?_
  refine (stable.setTimeout _).bind fun _ => (stable.call _ rfl).bind fun agent => ?_
  exact preserves_modify fun now quiet => quiet.told now.session now.timeout (some agent)

/-- Behind the launch of a browser the opening of a page asks for no other one. -/
theorem quiet_openPage (settings : Settings) (url : String) (condition : Condition) (timeout : Option Nat)
    (world : World (Client (Recorded τ))) :
    Quiet ((Settings.ensureStarted (Url.resolveIn settings.baseUrl url)).perform world.browser).2
      ((settings.openPage url condition timeout).perform world).2.browser := by
  let opened := Url.resolveIn settings.baseUrl url
  let launched := ((Settings.ensureStarted opened).perform world.browser).2
  let kept (world : World (Client (Recorded τ))) : Prop := Quiet launched world.browser
  have behind : kept ((World.onBrowser (Settings.ensureStarted opened)).perform world).2 := .refl launched
  have loads : Preserves kept (settings.load opened condition timeout) :=
    settings.preserves_load (stable_quiet launched) opened condition timeout
  rw [Settings.openPage_eq]
  exact kept_bind behind fun _ => loads

end

/-! ## The URL at hand -/

section

variable {τ : Type} {driver browser launchOptions : String} {client after : Client (Recorded τ)} {url : String}

/-- A client that was made without a URL launches against the one of the first launch. -/
structure Aimed (driver browser launchOptions : String) (client : Client (Recorded τ)) : Prop where
  driver_eq : client.driver = driver
  browser_eq : client.browser = browser
  launchOptions_eq : client.launchOptions = launchOptions
  browserUrl_eq : client.browserUrl = (carried? client.server.exchanges).getD ""

theorem Quiet.aimed (quiet : Quiet client after) (aimed : Aimed driver browser launchOptions client) :
    Aimed driver browser launchOptions after := by
  obtain ⟨made, grown, launchless⟩ := quiet.log_grows
  refine ⟨?_, ?_, ?_, ?_⟩
  · rw [quiet.rest, aimed.driver_eq]
  · rw [quiet.rest, aimed.browser_eq]
  · rw [quiet.rest, aimed.launchOptions_eq]
  · rw [grown, carried?_append launchless, quiet.rest, aimed.browserUrl_eq]

theorem launchUrl?_beginning (client : Client (Recorded τ)) :
    launchUrl? client.beginning = some client.browserUrl := by
  have second : (client.launch.fields ++ []).lookup (toString (1 + 1)) = some client.browserUrl :=
    Command.lookup_argument rfl []
  rw [List.append_nil] at second
  exact (if_pos client.asks_beginning).trans second

/-- A client with the URL to launch against where another one is to be opened. -/
def Client.toward (url : String) (client : Client (Recorded τ)) : Client (Recorded τ) :=
  { client with browserUrl := (carried? client.server.exchanges).getD url }

@[simp] theorem Client.toward_server (url : String) (client : Client (Recorded τ)) :
    (client.toward url).server = client.server := rfl

@[simp] theorem Client.toward_browserUrl (url : String) (client : Client (Recorded τ)) :
    (client.toward url).browserUrl = (carried? client.server.exchanges).getD url := rfl

theorem Aimed.beginning_toward (aimed : Aimed driver browser launchOptions client) (url : String) :
    (client.toward url).beginning =
      (Command.getNewBrowserSession browser ((carried? client.server.exchanges).getD url) "" launchOptions).unaddressed
        driver := by
  obtain ⟨rfl, rfl, rfl, _⟩ := aimed
  rfl

variable [Server τ]

theorem stable_aimed : Stable (Aimed driver browser launchOptions : Client (Recorded τ) → Prop) where
  call command ordinary client aimed := ((stable_quiet client).call command ordinary client (.refl client)).aimed aimed
  setTimeout ms client aimed := ((stable_quiet client).setTimeout ms client (.refl client)).aimed aimed
  testComplete client aimed := ((stable_quiet client).testComplete client (.refl client)).aimed aimed

/-- A launch leaves its URL for the next one, whether it comes to a session or not. -/
theorem aimed_start (client : Client (Recorded τ))
    (agrees : ∀ url, carried? client.server.exchanges = some url → client.browserUrl = url) :
    Aimed client.driver client.browser client.launchOptions (Client.start.perform client).2 := by
  refine (quiet_start client).aimed ⟨rfl, rfl, rfl, ?_⟩
  have grown : (client.sent client.beginning).server.exchanges =
      client.server.exchanges ++ [client.exchanged client.beginning] := rfl
  rw [grown, carried?_concat (launchUrl?_beginning client)]
  change client.browserUrl = _
  -- the URL of a launch before is the same by `agrees`; without one, this launch is the first and counts if not empty
  cases carried : carried? client.server.exchanges with
  | some url => exact agrees url carried
  | none => by_cases empty : client.browserUrl = "" <;> simp [empty]

theorem Aimed.preserves_start :
    Preserves (Aimed driver browser launchOptions) (Client.start : Action (Client (Recorded τ)) Unit) := by
  intro client aimed
  obtain ⟨rfl, rfl, rfl, atHand⟩ := aimed
  refine aimed_start client fun url carried => ?_
  rw [atHand, carried, Option.getD_some]

theorem ensureStarted_atHand {session : String} (atHand : client.session = some session) (url : String) :
    (Settings.ensureStarted url).perform client = (.ok (), client) := by
  rw [Settings.ensureStarted, perform_bind, perform_get]
  dsimp only
  rw [atHand]
  rfl

/-- Without a session a browser is launched, against the first URL there was. -/
theorem Aimed.ensureStarted (aimed : Aimed driver browser launchOptions client) (sessionless : client.session = none)
    (url : String) : (Settings.ensureStarted url).perform client = Client.start.perform (client.toward url) := by
  have taken : (if client.browserUrl = "" then { client with browserUrl := url } else client) = client.toward url := by
    have atHand := aimed.browserUrl_eq
    rw [Client.toward]
    cases carried : carried? client.server.exchanges with
    | none =>
      rw [carried] at atHand
      exact if_pos atHand
    | some first =>
      rw [carried, Option.getD_some] at atHand
      rw [if_neg (atHand ▸ ne_empty_of_carried? carried), Option.getD_some, ← atHand]
  rw [Settings.ensureStarted, perform_bind, perform_get]
  dsimp only
  rw [if_pos (Option.isNone_iff_eq_none.mpr sessionless), perform_bind, perform_modify, taken]

theorem Aimed.preserves_ensureStarted (url : String) : Preserves (Aimed driver browser launchOptions)
    (Settings.ensureStarted url : Action (Client (Recorded τ)) Unit) := by
  intro client aimed
  cases atHand : client.session with
  | some session =>
    rw [ensureStarted_atHand atHand]
    exact aimed
  | none =>
    rw [aimed.ensureStarted atHand]
    obtain ⟨rfl, rfl, rfl, _⟩ := aimed
    refine aimed_start (client.toward url) fun first carried => ?_
    rw [Client.toward_server] at carried
    rw [Client.toward_browserUrl, carried, Option.getD_some]

omit [Server τ] in
theorem aimed_unstarted (server : τ) (driver browser launchOptions : String) (defaultTimeout : Nat) :
    Aimed driver browser launchOptions (Client.unstarted server driver browser "" launchOptions defaultTimeout) :=
  ⟨rfl, rfl, rfl, rfl⟩

/-- Whatever is done with a browser that was made without a URL, it launches against the one of the first launch. -/
theorem aimed_through (settings : Settings) (operations : List Operation) {world : World (Client (Recorded τ))}
    (aimed : Aimed driver browser launchOptions world.browser) :
    Aimed driver browser launchOptions (through (Operation.step settings) operations world).browser := by
  have stable : Stable (Aimed driver browser launchOptions : Client (Recorded τ) → Prop) := stable_aimed
  have each (operation : Operation) := operation.preserves_step stable settings fun _ =>
    ⟨Aimed.preserves_start, Aimed.preserves_ensureStarted⟩
  exact kept_through each operations aimed

namespace Settings

/-- Whatever was done with a browser that was made without a URL, and however its server took it, opening a page in a
session asks for no launch, and without one for a single launch, as its first request. That launch carries the first URL
that a launch before carried, and only where there was none the URL being opened, which is resolved where there is a
base URL; so it carries the URL being opened exactly when there was no such URL or it is the same. -/
theorem launched_against_first (server : τ) (driver browser launchOptions : String) (defaultTimeout : Nat)
    (settings : Settings) (operations : List Operation) (url : String) (condition : Condition) (timeout : Option Nat) :
    let world := through (Operation.step settings) operations
      { browser := Client.unstarted server driver browser "" launchOptions defaultTimeout }
    let log := world.browser.server.exchanges
    let opened := settings.baseUrl.elim url fun base => Url.resolve base url
    ∃ sent,
      ((settings.openPage url condition timeout).perform world).2.browser.server.exchanges = log ++ sent ∧
      (world.browser.session ≠ none → Launchless sent) ∧
      (world.browser.session = none → ∃ launching more, sent = launching :: more ∧ Launchless more ∧
        launching.request =
          (Command.getNewBrowserSession browser ((carried? log).getD opened) "" launchOptions).unaddressed driver ∧
        (launchUrl? launching.request = some opened ↔ ∀ first, carried? log = some first → first = opened)) := by
  intro world log opened
  have start := aimed_unstarted server driver browser launchOptions defaultTimeout
  have aimed : Aimed driver browser launchOptions world.browser := aimed_through settings operations start
  have resolved : Url.resolveIn settings.baseUrl url = opened := by
    unfold opened
    cases settings.baseUrl <;> rfl
  have quiet := quiet_openPage settings url condition timeout world
  rw [resolved] at quiet
  cases atHand : world.browser.session with
  | some session =>
    rw [ensureStarted_atHand atHand] at quiet
    obtain ⟨sent, grown, launchless⟩ := quiet.log_grows
    exact ⟨sent, grown, fun _ => launchless, nofun⟩
  | none =>
    rw [aimed.ensureStarted atHand] at quiet
    obtain ⟨more, grown, launchless⟩ := ((quiet_start (world.browser.toward opened)).trans quiet).log_grows
    refine ⟨(world.browser.toward opened).exchanged (world.browser.toward opened).beginning :: more, ?_, ?_, ?_⟩
    · exact grown.trans (List.append_assoc _ [_] more)
    · exact fun atHand => absurd rfl atHand
    · refine fun _ => ⟨_, more, rfl, launchless, ?_, ?_⟩
      · exact aimed.beginning_toward opened
      · change launchUrl? (world.browser.toward opened).beginning = some opened ↔ _
        rw [launchUrl?_beginning, Client.toward_browserUrl]
        cases carried? log <;> simp

/-- A page is opened again behind a launch that the server refused. -/
theorem launched_against_first_again :
    let server : ScriptedServer :=
      { queued := ["ERROR: busy", "OK,s1", "OK", "OK,Agent", "OK"].map Response.ofText }
    let world := through (Operation.step {}) [.openPage "http://a.test/" .page none]
      { browser := Client.unstarted server "driver" "*firefox" "" "" 16000 }
    world.browser.session = none ∧ ∃ launching more,
      (((({} : Settings).openPage "http://a.test/" .page none).perform world).2.browser.server.exchanges =
        world.browser.server.exchanges ++ launching :: more) ∧
      launchUrl? launching.request = some "http://a.test/" := by
  intro server world
  have sessionless : world.browser.session = none := by decide +kernel
  obtain ⟨sent, grown, _, launches⟩ := launched_against_first server "driver" "*firefox" "" 16000 {}
    [.openPage "http://a.test/" .page none] "http://a.test/" .page none
  obtain ⟨launching, more, rfl, _, _, carries⟩ := launches sessionless
  have first : carried? world.browser.server.exchanges = some "http://a.test/" := by decide +kernel
  refine ⟨sessionless, launching, more, grown, carries.mpr fun url carried => ?_⟩
  exact Option.some.inj (carried.symm.trans first)

/-- Behind a session that was ended and behind a launch that the server refused, the URL of the page opened before is
carried, and not that of the page being opened. -/
theorem launched_against_another :
    let unstarted (answers : List String) : World (Client (Recorded ScriptedServer)) :=
      { browser := Client.unstarted { queued := answers.map Response.ofText } "driver" "*firefox" "" "" 16000 }
    let ended := through (Operation.step {}) [.openPage "http://a.test/" .page none, .session (.single .testComplete)]
      (unstarted ["OK,s1", "OK", "OK,Agent", "OK", "OK", "OK,s2", "OK", "OK,Agent", "OK"])
    let refused := through (Operation.step {}) [.openPage "http://a.test/" .page none]
      (unstarted ["ERROR: busy", "OK,s2", "OK", "OK,Agent", "OK"])
    ∀ world ∈ [ended, refused], world.browser.session = none ∧
      launchUrls ((({} : Settings).openPage "http://b.test/" .page none).perform world).2.browser.server.exchanges =
        ["http://a.test/", "http://a.test/"] := by
  decide +kernel

end Settings

end

end BrowserWait.SeleniumRc
