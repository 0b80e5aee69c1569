import BrowserWait.Proofs.SeleniumRc.Launch

/-!
# The names of browsers

A client asks the browser it launched for its name, once the timeout of the session is set, and keeps the answer. It
then gives that name until another browser has told its own (`agent_last_told`): also when the session was ended, and
when one that came after it did not get as far as the question.
-/

namespace BrowserWait.SeleniumRc

open Action

/-! ## Reading names -/

/-- How a browser comes to tell its name in a session: the server acknowledges the timeout, and then gives the name. -/
structure Tells (session agent : String) (setting asking : Exchange) : Prop where
  sets : (dialect.timeout? session setting).isSome = true
  asks : ∃ driver, asking.request = (Command.getEval agentScript).inSession driver session
  told : answered asking = .ok agent

/-- Behind a log an exchange tells the name of the current session's browser, right behind the setting of the timeout
with which that session began. -/
def Names (log : List Exchange) (asking : Exchange) (session agent : String) : Prop :=
  ∃ setting, dialect.Current log session [setting] ∧ Tells session agent setting asking

/-- The last name that a log tells, with the session of its browser and the exchanges since. -/
structure LastTold (log : List Exchange) (session agent : String) (since : List Exchange) : Prop where
  told : ∃ earlier asking, log = earlier ++ asking :: since ∧ Names earlier asking session agent
  last : ∀ earlier asking later session agent, log = earlier ++ asking :: later → Names earlier asking session agent →
    since.length ≤ later.length

section

variable {log : List Exchange} {exchange : Exchange} {session agent : String} {since : List Exchange}

theorem Names.unique {other name : String} (names : Names log exchange session agent)
    (also : Names log exchange other name) : session = other ∧ agent = name := by
  obtain ⟨_, current, tells⟩ := names
  obtain ⟨_, same, retells⟩ := also
  exact ⟨(current.unique same).1, Except.ok.inj (tells.told.symm.trans retells.told)⟩

/-- A log has one last name at most. -/
theorem LastTold.unique {other name : String} {further : List Exchange} (last : LastTold log session agent since)
    (also : LastTold log other name further) : session = other ∧ since = further := by
  obtain ⟨⟨earlier, asking, split, names⟩, shortest⟩ := last
  obtain ⟨⟨front, question, whole, renames⟩, least⟩ := also
  have length : since.length = further.length :=
    Nat.le_antisymm (shortest _ _ _ _ _ whole renames) (least _ _ _ _ _ split names)
  obtain ⟨rfl, same⟩ := List.append_inj' (split.symm.trans whole) (congrArg (· + 1) length)
  obtain ⟨rfl, rfl⟩ := List.cons.inj same
  exact ⟨(names.unique renames).1, rfl⟩

theorem lastTold_of_names (names : Names log exchange session agent) : LastTold (log ++ [exchange]) session agent [] :=
  ⟨⟨log, exchange, rfl, names⟩, fun _ _ _ _ _ _ _ => Nat.zero_le _⟩

/-- With an exchange more, either it tells the last name, or the last one of the log before stays. -/
theorem lastTold_concat :
    LastTold (log ++ [exchange]) session agent since ↔
      Names log exchange session agent ∧ since = [] ∨
        (∀ session agent, ¬ Names log exchange session agent) ∧
          ∃ before, since = before ++ [exchange] ∧ LastTold log session agent before := by
  constructor
  · rintro ⟨⟨earlier, asking, split, names⟩, last⟩
    rcases Dialect.split_concat split with ⟨rfl, rfl, rfl⟩ | ⟨before, rfl, rfl⟩
    · exact .inl ⟨names, rfl⟩
    · refine .inr ⟨fun session agent later => ?_, before, rfl, ⟨earlier, asking, rfl, names⟩, ?_⟩
      · have shorter := last _ exchange [] session agent rfl later
        simp at shorter
      · intro front other later session agent split names
        have shorter := last front other (later ++ [exchange]) session agent (by rw [split]; simp) names
        simpa using shorter
  · rintro (⟨names, rfl⟩ | ⟨silent, before, rfl, ⟨earlier, asking, rfl, names⟩, last⟩)
    · exact lastTold_of_names names
    · refine ⟨⟨earlier, asking, by simp, names⟩, ?_⟩
      intro front other later session agent split names
      rcases Dialect.split_concat split with ⟨rfl, rfl, rfl⟩ | ⟨gap, rfl, same⟩
      · exact absurd names (silent session agent)
      · simpa using last front other gap session agent same names

/-- A name that was told in the current session is the last one. -/
theorem lastTold_of_current {setting asking : Exchange}
    (current : dialect.Current log session (setting :: asking :: since)) (tells : Tells session agent setting asking) :
    LastTold log session agent since := by
  obtain ⟨earlier, beginning, split, begins⟩ := current.begun
  have silent := current.latest setting List.mem_cons_self
  have lasting := current.lasting setting List.mem_cons_self
  refine ⟨⟨earlier ++ [beginning, setting], asking, by simp [split], setting, ?_, tells⟩, ?_⟩
  · exact ⟨⟨earlier, beginning, rfl, begins⟩, List.forall_mem_singleton.mpr silent,
      List.forall_mem_singleton.mpr lasting⟩
  · rintro front other later otherSession otherAgent whole ⟨set, ⟨⟨first, launch, rfl, launches⟩, _, _⟩, _⟩
    have split : log = first ++ launch :: set :: other :: later := by simp [whole]
    simpa using current.length_le split launches

end

/-! ## Keeping names -/

/-- The current session has come behind the point where its browser is asked for its name: its timeout was to be set,
and if the server acknowledged that, another exchange followed. -/
structure Settled (log : List Exchange) : Prop where
  set : ∀ session, ¬ dialect.Current log session []
  asked : ∀ session setting, dialect.Current log session [setting] → dialect.timeout? session setting = none

/-- A name is the last one that a log tells. -/
def Recalls (log : List Exchange) (agent : Option String) : Prop :=
  ∀ name, agent = some name ↔ ∃ session since, LastTold log session name since

section

variable {log since : List Exchange} {exchange : Exchange} {agent : Option String} {session : String}

theorem settled_nil : Settled [] := by
  have none (session : String) (since : List Exchange) : ¬ dialect.Current [] session since := by
    rintro ⟨⟨earlier, beginning, split, _⟩, _, _⟩
    simp at split
  exact ⟨fun session => none session [], fun session setting current => absurd current (none session [setting])⟩

/-- With something done in the current session beyond the setting of its timeout, or where that failed. -/
theorem settled_of_current (current : dialect.Current log session since) (begun : since ≠ [])
    (unset : ∀ setting, since = [setting] → dialect.timeout? session setting = none) : Settled log := by
  refine ⟨fun other also => begun (current.unique also).2, fun other setting also => ?_⟩
  obtain ⟨rfl, rfl⟩ := current.unique also
  exact unset setting rfl

/-- The current session goes on with a request in it that does not end it. -/
theorem current_inSession {command : Command} {driver : String} (current : dialect.Current log session since)
    (sent : exchange.request = command.inSession driver session) (requires : command.requiresSession = true)
    (stays : command ≠ .testComplete) :
    dialect.Current (log ++ [exchange]) session (since ++ [exchange]) := by
  refine current.append (List.forall_mem_singleton.mpr ⟨begins?_inSession requires sent, ?_⟩)
  rw [ends_inSession sent, decide_eq_false stays, Bool.false_and]

theorem recalls_nil : Recalls [] none := by
  intro name
  refine ⟨nofun, ?_⟩
  rintro ⟨session, since, ⟨earlier, asking, split, _⟩, _⟩
  simp at split

theorem Settled.not_names (settled : Settled log) (session agent : String) : ¬ Names log exchange session agent := by
  rintro ⟨setting, current, tells⟩
  have sets := tells.sets
  rw [settled.asked session setting current] at sets
  cases sets

theorem Settled.concat (settled : Settled log) (silent : dialect.begins? exchange = none) :
    Settled (log ++ [exchange]) := by
  constructor
  · intro session current
    rcases Dialect.current_concat.mp current with ⟨begins, _⟩ | ⟨_, _, before, split, _⟩
    · cases silent.symm.trans begins
    · simp at split
  · intro session setting current
    rcases Dialect.current_concat.mp current with ⟨begins, _⟩ | ⟨_, _, before, split, goesOn⟩
    · cases silent.symm.trans begins
    · obtain rfl : before = [] := by simpa using congrArg List.length split
      exact absurd goesOn (settled.set session)

theorem Recalls.concat (recalls : Recalls log agent) (silent : ∀ session name, ¬ Names log exchange session name) :
    Recalls (log ++ [exchange]) agent := by
  intro name
  rw [recalls name]
  constructor
  · rintro ⟨session, since, last⟩
    exact ⟨session, _, lastTold_concat.mpr (.inr ⟨silent, since, rfl, last⟩)⟩
  · rintro ⟨session, since, last⟩
    rcases lastTold_concat.mp last with ⟨names, _⟩ | ⟨_, before, _, stays⟩
    · exact absurd names (silent session name)
    · exact ⟨session, before, stays⟩

theorem recalls_of_names {name : String} (names : Names log exchange session name) :
    Recalls (log ++ [exchange]) (some name) := by
  intro other
  constructor
  · rintro ⟨⟩
    exact ⟨session, [], lastTold_of_names names⟩
  · rintro ⟨otherSession, since, last⟩
    rcases lastTold_concat.mp last with ⟨later, _⟩ | ⟨silent, _⟩
    · exact congrArg some (names.unique later).2
    · exact absurd names (silent session name)

end

section

variable {τ : Type} {client after : Client (Recorded τ)} {session : String}

/-- A client that has come behind its question gives the name that was told last. -/
structure Remembers (client : Client (Recorded τ)) : Prop where
  settled : Settled client.server.exchanges
  recalls : Recalls client.server.exchanges client.agent

theorem begins?_of_launchless {made : List Exchange} (launchless : Launchless made) :
    ∀ exchange ∈ made, dialect.begins? exchange = none := by
  intro exchange member
  refine if_neg fun named => ?_
  have asks : dialect.asks exchange.request = true := beq_iff_eq.mpr named
  cases (launchless exchange member).symm.trans asks

/-- What asks for no launch and leaves the name leaves it the last one that was told. -/
theorem Quiet.remembers (quiet : Quiet client after) (same : after.agent = client.agent)
    (remembers : Remembers client) : Remembers after := by
  obtain ⟨made, grown, launchless⟩ := quiet.log_grows
  have silent := begins?_of_launchless launchless
  suffices Settled (client.server.exchanges ++ made) ∧ Recalls (client.server.exchanges ++ made) client.agent by
    constructor
    · rw [grown]
      exact this.1
    · rw [grown, same]
      exact this.2
  clear grown launchless
  -- exchange by exchange from the end of what was made
  induction made using List.reverseRecOn with
  | nil => simpa using ⟨remembers.settled, remembers.recalls⟩
  | append_singleton made exchange ih =>
    obtain ⟨earlier, last⟩ := List.forall_mem_append.mp silent
    obtain ⟨settled, recalls⟩ := ih earlier
    rw [← List.append_assoc]
    exact ⟨settled.concat (last exchange (List.mem_singleton.mpr rfl)), recalls.concat settled.not_names⟩

variable [Server τ]

/-- Only the beginning of a session changes the name. -/
theorem stable_agent (agent : Option String) : Stable (fun client : Client τ => client.agent = agent) := by
  have called (command : Command) : Preserves (fun client : Client τ => client.agent = agent) (Client.call command) := by
    refine preserves_get.bind fun client => (preserves_ofExcept _).bind fun request => ?_
    exact Preserves.bind (fun _ same => same) fun response => preserves_ofExcept _
  have ran (command : Command) : Preserves (fun client : Client τ => client.agent = agent) (Client.run command) :=
    (called command).bind fun _ => preserves_pure ()
  refine ⟨fun command _ => called command, fun ms => ?_, (ran _).bind fun _ => preserves_modify fun _ same => same⟩
  refine preserves_get.bind fun client => ?_
  dsimp only
  split
  · exact (ran _).bind fun _ => preserves_modify fun _ same => same
  · exact preserves_modify fun _ same => same

omit [Server τ] in
theorem preserves_remembers {α : Type} {action : Action (Client (Recorded τ)) α}
    (quiet : ∀ client, Preserves (Quiet client) action)
    (same : ∀ agent, Preserves (fun client => client.agent = agent) action) : Preserves Remembers action :=
  fun client remembers => (quiet client client (.refl client)).remembers (same client.agent client rfl) remembers

theorem stable_remembers : Stable (Remembers : Client (Recorded τ) → Prop) where
  call command ordinary :=
    preserves_remembers (fun client => (stable_quiet client).call command ordinary) fun agent =>
      (stable_agent agent).call command ordinary
  setTimeout ms :=
    preserves_remembers (fun client => (stable_quiet client).setTimeout ms) fun agent =>
      (stable_agent agent).setTimeout ms
  testComplete :=
    preserves_remembers (fun client => (stable_quiet client).testComplete) fun agent =>
      (stable_agent agent).testComplete

/-! ### The beginning of a session -/

/-- A client whose session has just begun. -/
structure Begun (session : String) (client : Client (Recorded τ)) : Prop where
  atHand : client.session = some session
  unset : client.timeout = none
  current : dialect.Current client.server.exchanges session []
  recalls : Recalls client.server.exchanges client.agent

/-- A client whose session got its timeout and nothing else yet. -/
structure Timed (session : String) (client : Client (Recorded τ)) : Prop where
  atHand : client.session = some session
  set : ∃ setting, dialect.Current client.server.exchanges session [setting] ∧
    (dialect.timeout? session setting).isSome = true
  recalls : Recalls client.server.exchanges client.agent

/-- The session gets its timeout, or the server does not grant it and nothing more is asked. -/
theorem Begun.setTimeout (begun : Begun session client) (ms : Nat) :
    (∃ failure after, (Client.setTimeout ms).perform client = (.error failure, after) ∧ Remembers after) ∨
      ∃ after, (Client.setTimeout ms).perform client = (.ok (), after) ∧ Timed session after := by
  obtain ⟨atHand, unset, current, recalls⟩ := begun
  have differs : client.timeout ≠ some ms := by simp [unset]
  rw [Client.setTimeout, perform_bind, perform_get]
  dsimp only
  rw [if_pos differs, perform_bind]
  rcases Client.run_cases (.setTimeout ms) rfl client with ⟨sessionless, _⟩ | ⟨other, same, ends⟩
  · cases atHand.symm.trans sessionless
  obtain rfl : session = other := Option.some.inj (atHand.symm.trans same)
  let setting := client.exchanged ((Command.setTimeout ms).inSession client.driver session)
  have sent : setting.request = (Command.setTimeout ms).inSession client.driver session := rfl
  have goesOn : dialect.Current (client.server.exchanges ++ [setting]) session [setting] :=
    current_inSession current sent rfl (by simp)
  have sets : dialect.timeout? session setting = if acknowledges setting then some ms else none :=
    timeout?_inSession sent
  have unnamed (session name : String) : ¬ Names client.server.exchanges setting session name := by
    rintro ⟨_, also, _⟩
    cases (current.unique also).2
  rcases ends with ⟨failure, told, performed⟩ | ⟨data, told, performed⟩
  · rw [performed]
    refine .inl ⟨failure, _, rfl, settled_of_current goesOn (List.cons_ne_nil _ _) ?_, recalls.concat unnamed⟩
    rintro _ ⟨⟩
    rw [sets, acknowledges_of_error told]
    rfl
  · rw [performed]
    refine .inr ⟨_, rfl, atHand, ⟨setting, goesOn, ?_⟩, recalls.concat unnamed⟩
    rw [sets, acknowledges_of_ok told]
    rfl

/-- The browser of the session is asked for its name, and the client keeps what it tells. -/
theorem Timed.ask (timed : Timed session client) :
    Remembers ((do
      let agent ← Client.call (.getEval agentScript)
      modify fun client => { client with agent := some agent } :
        Action (Client (Recorded τ)) Unit).perform client).2 := by
  obtain ⟨atHand, ⟨setting, current, sets⟩, recalls⟩ := timed
  let asking := client.exchanged ((Command.getEval agentScript).inSession client.driver session)
  have settled : Settled (client.server.exchanges ++ [asking]) := by
    have sent : asking.request = (Command.getEval agentScript).inSession client.driver session := rfl
    exact settled_of_current (current_inSession current sent rfl nofun) (List.cons_ne_nil _ _) nofun
  rw [perform_bind, Client.call_inSession rfl atHand]
  cases told : answered asking with
  | error failure =>
    refine ⟨settled, recalls.concat fun session name => ?_⟩
    rintro ⟨_, _, tells⟩
    cases told.symm.trans tells.told
  | ok name => exact ⟨settled, recalls_of_names ⟨setting, current, sets, ⟨client.driver, rfl⟩, told⟩⟩

/-- Whether a session begins or not, the client then gives the name that was told last. -/
theorem preserves_start_remembers : Preserves Remembers (Client.start : Action (Client (Recorded τ)) Unit) := by
  intro client remembers
  rw [Client.start, perform_bind, perform_get]
  dsimp only
  rw [← Client.launch, perform_bind, Client.call_launch]
  have begins : dialect.begins? (client.exchanged client.beginning) =
      (answered (client.exchanged client.beginning)).toOption := begins?_launch rfl
  have unnamed : Recalls (client.server.exchanges ++ [client.exchanged client.beginning]) client.agent :=
    remembers.recalls.concat remembers.settled.not_names
  cases told : answered (client.exchanged client.beginning) with
  | error failure =>
    rw [told] at begins
    exact ⟨remembers.settled.concat begins, unnamed⟩
  | ok session =>
    rw [told] at begins
    have begun : Begun session { client.sent client.beginning with session := some session, timeout := none } :=
      ⟨rfl, rfl, Dialect.current_concat.mpr (.inl ⟨begins, rfl⟩), unnamed⟩
    dsimp only
    rw [perform_bind, perform_modify]
    dsimp only
    rw [perform_bind]
    rcases begun.setTimeout client.defaultTimeout with ⟨failure, after, performed, kept⟩ | ⟨after, performed, timed⟩
    · rw [performed]
      exact kept
    · rw [performed]
      exact timed.ask

/-- Whatever is done with a browser, its client gives the name that was told last. -/
theorem remembers_through (settings : Settings) (operations : List Operation) {world : World (Client (Recorded τ))}
    (remembers : Remembers world.browser) :
    Remembers (through (Operation.step settings) operations world).browser := by
  have anywhere (client : Client (Recorded τ)) (url : String) (kept : Remembers client) :
      Remembers { client with browserUrl := url } := ⟨kept.settled, kept.recalls⟩
  have each (operation : Operation) := operation.preserves_step stable_remembers settings fun _ =>
    ⟨preserves_start_remembers, Settings.preserves_ensureStarted preserves_start_remembers anywhere⟩
  exact kept_through each operations remembers

end

/-! ## Names and sessions -/

section

variable {τ : Type} {client : Client (Recorded τ)}

/-- A client gives a name only with a session, and only the one that the browser of the current session told. -/
def NamesCurrent (client : Client (Recorded τ)) : Prop :=
  ∀ agent, client.agent = some agent → ∃ session setting asking since, client.session = some session ∧
    dialect.Current client.server.exchanges session (setting :: asking :: since) ∧ Tells session agent setting asking

/-- Among exchanges none begins a session, and none ends the given one. -/
def Lasts (session : String) (since : List Exchange) : Prop :=
  ∀ exchange ∈ since, dialect.begins? exchange = none ∧ dialect.ends session exchange = false

variable [Server τ]

open SessionClient in
/-- A name is that of the current session's browser as long as, since it was told, its session lasted. -/
theorem namesCurrent_iff (tracking : Tracking client) (remembers : Remembers client) :
    NamesCurrent client ↔
      ∀ session agent since, LastTold client.server.exchanges session agent since → Lasts session since := by
  constructor
  · intro names session agent since last
    have given : client.agent = some agent := (remembers.recalls agent).mpr ⟨session, since, last⟩
    obtain ⟨other, setting, asking, further, _, current, tells⟩ := names agent given
    obtain ⟨rfl, rfl⟩ := last.unique (lastTold_of_current current tells)
    intro exchange member
    have within := List.mem_cons_of_mem setting (List.mem_cons_of_mem asking member)
    exact ⟨current.latest exchange within, current.lasting exchange within⟩
  · intro lasting agent given
    obtain ⟨session, since, last⟩ := (remembers.recalls agent).mp given
    have lasts := lasting session agent since last
    obtain ⟨⟨earlier, asking, split, setting, before, tells⟩, _⟩ := last
    obtain ⟨driver, sent⟩ := tells.asks
    have asked := current_inSession before sent rfl nofun
    have current : dialect.Current client.server.exchanges session (setting :: asking :: since) := by
      simpa [split] using asked.append lasts
    exact ⟨session, setting, asking, since, tracking.session_iff.mpr ⟨_, current⟩, current, tells⟩

/-- Whatever was done with a browser, and however its server took it, the name a client gives is the last one that the
browser of a session told right behind the setting of the session's timeout. Exactly as long as that session lasts and
no other one begins, this is a name that is given with a session only, and that the current session's browser told. -/
theorem agent_last_told (server : τ) (driver browser browserUrl launchOptions : String) (defaultTimeout : Nat)
    (settings : Settings) (operations : List Operation) :
    let client := (through (Operation.step settings) operations
      { browser := Client.unstarted server driver browser browserUrl launchOptions defaultTimeout }).browser
    let log := client.server.exchanges
    (∀ agent, client.agent = some agent ↔ ∃ session since, LastTold log session agent since) ∧
      (NamesCurrent client ↔ ∀ session agent since, LastTold log session agent since → Lasts session since) := by
  intro client log
  have tracking : SessionClient.Tracking client := tracking_through settings operations
    (tracking_unstarted server driver browser browserUrl launchOptions defaultTimeout)
  have remembers : Remembers client := remembers_through settings operations ⟨settled_nil, recalls_nil⟩
  exact ⟨remembers.recalls, namesCurrent_iff tracking remembers⟩

/-- A page was opened, and the session ended. -/
theorem agent_last_told_ended :
    let server : ScriptedServer := { queued := ["OK,s1", "OK", "OK,Agent", "OK", "OK"].map Response.ofText }
    let client := (through (Operation.step {}) [.openPage "http://a.test/" .page none, .session (.single .testComplete)]
      { browser := Client.unstarted server "driver" "*firefox" "" "" 16000 }).browser
    ∃ session since, LastTold client.server.exchanges session "Agent" since ∧ ¬ Lasts session since := by
  intro server client
  have told := agent_last_told server "driver" "*firefox" "" "" 16000 {}
    [.openPage "http://a.test/" .page none, .session (.single .testComplete)]
  have named : client.agent = some "Agent" := by decide +kernel
  have sessionless : client.session = none := by decide +kernel
  obtain ⟨session, since, last⟩ := (told.1 "Agent").mp named
  refine ⟨session, since, last, fun lasts => ?_⟩
  have current : NamesCurrent client := told.2.mpr fun other agent further also => by
    obtain ⟨rfl, rfl⟩ := last.unique also
    exact lasts
  obtain ⟨_, _, _, _, atHand, _⟩ := current "Agent" named
  cases atHand.symm.trans sessionless

/-- A client gives the name of a browser whose session was ended, also when another session was begun since, of which
the server did not set the timeout. -/
theorem agent_of_former_session :
    let unstarted (answers : List String) : World (Client (Recorded ScriptedServer)) :=
      { browser := Client.unstarted { queued := answers.map Response.ofText } "driver" "*firefox" "" "" 16000 }
    let opened : List Operation := [.openPage "http://a.test/" .page none, .session (.single .testComplete)]
    let ended := through (Operation.step {}) opened (unstarted ["OK,s1", "OK", "OK,Agent", "OK", "OK"])
    let replaced := through (Operation.step {}) (opened ++ [.session (.single .start)])
      (unstarted ["OK,s1", "OK", "OK,Agent", "OK", "OK", "OK,s2", "ERROR: busy"])
    ended.browser.session = none ∧ replaced.browser.session = some "s2" ∧
      ∀ world ∈ [ended, replaced], world.browser.agent = some "Agent" ∧ ¬ NamesCurrent world.browser := by
  intro unstarted opened ended replaced
  have sessionless : ended.browser.session = none := by decide +kernel
  have unset : (dialect.standing replaced.browser.server.exchanges).timeout = none := by decide +kernel
  have named : ∀ world ∈ [ended, replaced], world.browser.agent = some "Agent" := by decide +kernel
  refine ⟨sessionless, by decide +kernel, fun world member => ⟨named world member, fun current => ?_⟩⟩
  obtain ⟨session, setting, asking, since, atHand, current, tells⟩ := current "Agent" (named world member)
  rcases List.mem_pair.mp member with rfl | rfl
  · cases atHand.symm.trans sessionless
  · -- the name was told right behind a timeout, but the session at hand has none
    rw [Dialect.standing_of_current current, List.getLast?_eq_none_iff, List.filterMap_eq_nil_iff] at unset
    have sets := tells.sets
    rw [unset setting List.mem_cons_self] at sets
    cases sets

end

end BrowserWait.SeleniumRc
