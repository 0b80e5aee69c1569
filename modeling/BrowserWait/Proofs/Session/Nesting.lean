import BrowserWait.Proofs.Session.Client
import BrowserWait.Proofs.Session.Scope

/-!
# Nested timeouts

Steps under timeouts of their own, one inside another. `UnderTimeout` has one constructor for each way a single one can
go, and there is always one of them. Nested to any depth, each begins under the timeout it asks for, or else the
enclosing one, and the former timeout is in force again behind it, unless a timeout could not be set or the caller gave
up (`timeouts_nest`).

A watched session keeps what happens to it, so that the timeouts set and the steps made are a list in their order.
-/

namespace BrowserWait

open Action TimedSession

/-! ## Watched sessions -/

/-- What happens to a session. -/
inductive SessionEvent where
  /-- A timeout was set, or could not be. -/
  | set (ms : Nat) (outcome : Except Failure Unit)
  /-- A step ended, to which a timeout was due; it began under the one in force and may have failed. -/
  | made (due inForce : Option Nat) (failure : Option Failure)
deriving DecidableEq

/-- A session with what happened to it. -/
structure Watched (σ : Type) where
  session : σ
  events : List SessionEvent := []

namespace Watched

variable {σ α : Type} [TimedSession σ]

instance : TimedSession (Watched σ) where
  sessionTimeout watched := sessionTimeout watched.session
  setTimeout ms := .ofPerform fun watched =>
    let (outcome, session) := (setTimeout ms : Action σ Unit).perform watched.session
    (outcome, ⟨session, watched.events ++ [.set ms outcome]⟩)

/-- A step on the session alone. -/
def onSession (step : Action σ α) : Action (Watched σ) α :=
  onPart session (fun session watched => { watched with session }) step

/-- Why a step failed, if it did. -/
def failure? : Except Failure α → Option Failure
  | .ok _ => none
  | .error failure => some failure

/-- A step that is kept among the events when it ends. -/
def noted (due : Option Nat) (step : Action (Watched σ) α) : Action (Watched σ) α :=
  .ofPerform fun watched =>
    let (outcome, after) := step.perform watched
    (outcome, { after with events := after.events ++ [.made due (sessionTimeout watched) (failure? outcome)] })

/-- A watched step does to the session what a step does, and these events happen. -/
def Follows (watched : Action (Watched σ) α) (step : Action σ α) (events : σ → List SessionEvent) : Prop :=
  ∀ state before, watched.perform ⟨state, before⟩ =
    ((step.perform state).1, ⟨(step.perform state).2, before ++ events state⟩)

/-- What happens in a watched step. -/
def eventsIn (watched : Action (Watched σ) α) (state : σ) : List SessionEvent := (watched.perform ⟨state, []⟩).2.events

theorem perform_setTimeout (ms : Nat) (state : σ) (before : List SessionEvent) :
    (setTimeout ms : Action (Watched σ) Unit).perform ⟨state, before⟩ =
      (((setTimeout ms : Action σ Unit).perform state).1,
        ⟨((setTimeout ms : Action σ Unit).perform state).2,
          before ++ [.set ms ((setTimeout ms : Action σ Unit).perform state).1]⟩) := rfl

theorem Follows.noted {watched : Action (Watched σ) α} {step : Action σ α} {events : σ → List SessionEvent}
    (follows : Follows watched step events) (due : Option Nat) :
    Follows (noted due watched) step fun state =>
      events state ++ [.made due (sessionTimeout state) (failure? (step.perform state).1)] := by
  intro state before
  rw [Watched.noted, perform_ofPerform, follows]
  dsimp only
  rw [List.append_assoc]
  rfl

omit [TimedSession σ] in
theorem follows_onSession (step : Action σ α) : Follows (onSession step) step fun _ => [] := by
  intro state before
  rw [onSession, perform_onPart, List.append_nil]

end Watched

/-! ## A single step -/

section

variable {σ α : Type} [TimedSession σ]

/-- How a step goes under a timeout of its own, if it is given one: the outcome, the session it leaves and the events,
where those of the step alone are known. -/
inductive UnderTimeout (timeout : Option Nat) (step : Action σ α) (events : σ → List SessionEvent) (state : σ) :
    Except Failure α → σ → List SessionEvent → Prop where
  /-- No other timeout than the one in force is asked for, so nothing is set. -/
  | plain {outcome : Except Failure α} {after : σ} (same : timeout = none ∨ timeout = sessionTimeout state)
      (made : step.perform state = (outcome, after)) : UnderTimeout timeout step events state outcome after (events state)
  /-- The timeout could not be set, so the step is not made. -/
  | refused {ms : Nat} {failure : Failure} {after : σ} (asked : timeout = some ms)
      (differs : sessionTimeout state ≠ some ms)
      (set : (setTimeout ms : Action σ Unit).perform state = (.error failure, after)) :
      UnderTimeout timeout step events state (.error failure) after [.set ms (.error failure)]
  /-- The caller gave up in the step, so nothing is put back. -/
  | interrupted {ms : Nat} {begun after : σ} (asked : timeout = some ms) (differs : sessionTimeout state ≠ some ms)
      (set : (setTimeout ms : Action σ Unit).perform state = (.ok (), begun))
      (made : step.perform begun = (.error .interrupted, after)) :
      UnderTimeout timeout step events state (.error .interrupted) after (.set ms (.ok ()) :: events begun)
  /-- No timeout was set before, so there is none to put back. -/
  | unrestored {ms : Nat} {begun after : σ} {outcome : Except Failure α} (asked : timeout = some ms)
      (unset : sessionTimeout state = none) (set : (setTimeout ms : Action σ Unit).perform state = (.ok (), begun))
      (made : step.perform begun = (outcome, after)) :
      UnderTimeout timeout step events state outcome after (.set ms (.ok ()) :: events begun)
  /-- The step fails, and the former timeout is put back: only giving up there takes the place of the failure. -/
  | failed {ms former : Nat} {begun between after : σ} {failure : Failure} {put : Except Failure Unit}
      (asked : timeout = some ms) (had : sessionTimeout state = some former) (differs : former ≠ ms)
      (set : (setTimeout ms : Action σ Unit).perform state = (.ok (), begun))
      (made : step.perform begun = (.error failure, between)) (lasting : failure ≠ .interrupted)
      (restored : (setTimeout former : Action σ Unit).perform between = (put, after)) :
      UnderTimeout timeout step events state (.error (if put = .error .interrupted then .interrupted else failure)) after
        (.set ms (.ok ()) :: events begun ++ [.set former put])
  /-- The step succeeds, and its value counts if the former timeout could be put back. -/
  | succeeded {ms former : Nat} {begun between after : σ} {value : α} {put : Except Failure Unit}
      (asked : timeout = some ms) (had : sessionTimeout state = some former) (differs : former ≠ ms)
      (set : (setTimeout ms : Action σ Unit).perform state = (.ok (), begun))
      (made : step.perform begun = (.ok value, between))
      (restored : (setTimeout former : Action σ Unit).perform between = (put, after)) :
      UnderTimeout timeout step events state (put.map fun _ => value) after
        (.set ms (.ok ()) :: events begun ++ [.set former put])

variable {timeout : Option Nat} {step : Action σ α} {events : σ → List SessionEvent} {state : σ}

theorem exists_underTimeout (timeout : Option Nat) (step : Action σ α) (events : σ → List SessionEvent) (state : σ) :
    ∃ outcome after happened, UnderTimeout timeout step events state outcome after happened := by
  by_cases same : timeout = none ∨ timeout = sessionTimeout state
  · exact ⟨_, _, _, .plain same rfl⟩
  obtain ⟨ms, asked⟩ : ∃ ms, timeout = some ms := Option.ne_none_iff_exists'.mp fun none => same (.inl none)
  have differs : sessionTimeout state ≠ some ms := fun equal => same (.inr (asked.trans equal.symm))
  rcases set : (setTimeout ms : Action σ Unit).perform state with ⟨failure | ⟨⟩, begun⟩
  · exact ⟨_, _, _, .refused asked differs set⟩
  rcases made : step.perform begun with ⟨outcome, between⟩
  cases had : sessionTimeout state with
  | none => exact ⟨_, _, _, .unrestored asked had set made⟩
  | some former =>
    have other : former ≠ ms := fun equal => differs (had.trans (congrArg some equal))
    rcases restored : (setTimeout former : Action σ Unit).perform between with ⟨put, after⟩
    cases outcome with
    | ok value => exact ⟨_, _, _, .succeeded asked had other set made restored⟩
    | error failure =>
      by_cases gaveUp : failure = .interrupted
      · subst gaveUp
        exact ⟨_, _, _, .interrupted asked differs set made⟩
      · exact ⟨_, _, _, .failed asked had other set made gaveUp restored⟩

theorem withTimeout_granted {ms : Nat} {begun : σ} (differs : sessionTimeout state ≠ some ms)
    (set : (setTimeout ms : Action σ Unit).perform state = (.ok (), begun)) :
    (withTimeout (some ms) step).perform state = (thenRestore (sessionTimeout state) step).perform begun := by
  rw [withTimeout_other differs, perform_bind, set]

theorem UnderTimeout.perform {outcome : Except Failure α} {after : σ} {happened : List SessionEvent}
    (course : UnderTimeout timeout step events state outcome after happened) :
    (withTimeout timeout step).perform state = (outcome, after) := by
  cases course with
  | plain same made => rw [withTimeout_same same, made]
  | refused asked differs set => rw [asked, withTimeout_other differs, perform_bind, set]
  | interrupted asked differs set made => rw [asked, withTimeout_granted differs set, thenRestore_fatal _ made rfl]
  | @unrestored ms begun after outcome asked unset set made =>
    have differs : sessionTimeout state ≠ some ms := by
      intro equal
      cases unset.symm.trans equal
    rw [asked, withTimeout_granted differs set, unset, thenRestore_none made]
  | @failed ms former begun between after failure put asked had differs set made lasting restored =>
    have other : sessionTimeout state ≠ some ms := fun equal => differs (Option.some.inj (had.symm.trans equal))
    have notFatal : failure.isFatal = false := beq_false_of_ne lasting
    rw [asked, withTimeout_granted other set, had, thenRestore_error former made notFatal, restored]
    cases put with
    | ok _ => rfl
    | error later =>
      by_cases gaveUp : later = .interrupted
      · subst gaveUp
        rfl
      · have notFatal : later.isFatal = false := beq_false_of_ne gaveUp
        simp [notFatal, gaveUp]
  | @succeeded ms former begun between after value put asked had differs set made restored =>
    have other : sessionTimeout state ≠ some ms := fun equal => differs (Option.some.inj (had.symm.trans equal))
    rw [asked, withTimeout_granted other set, had, thenRestore_ok former made, restored]
    cases put with
    | ok _ => rfl
    | error later => rfl

theorem UnderTimeout.watched {watched : Action (Watched σ) α} (follows : Watched.Follows watched step events)
    {outcome : Except Failure α} {after : σ} {happened : List SessionEvent}
    (course : UnderTimeout timeout step events state outcome after happened) (before : List SessionEvent) :
    (withTimeout timeout watched).perform ⟨state, before⟩ = (outcome, ⟨after, before ++ happened⟩) := by
  have sets {ms : Nat} {session left : σ} {put : Except Failure Unit}
      (set : (setTimeout ms : Action σ Unit).perform session = (put, left)) (earlier : List SessionEvent) :
      (setTimeout ms : Action (Watched σ) Unit).perform ⟨session, earlier⟩ =
        (put, ⟨left, earlier ++ [.set ms put]⟩) := by
    rw [Watched.perform_setTimeout, set]
  have makes {session left : σ} {result : Except Failure α} (made : step.perform session = (result, left))
      (earlier : List SessionEvent) :
      watched.perform ⟨session, earlier⟩ = (result, ⟨left, earlier ++ events session⟩) := by
    rw [follows, made]
  -- the watched step goes the same way in the watched session, which keeps what happens
  suffices lifted : ∃ any, UnderTimeout timeout watched (fun _ => []) ⟨state, before⟩ outcome
      ⟨after, before ++ happened⟩ any from lifted.choose_spec.perform
  cases course with
  | plain same made => exact ⟨_, .plain same (makes made before)⟩
  | refused asked differs set => exact ⟨_, .refused asked differs (sets set before)⟩
  | interrupted asked differs set made =>
    refine ⟨_, .interrupted asked differs (sets set before) ?_⟩
    rw [makes made, List.append_assoc]
    rfl
  | unrestored asked unset set made =>
    refine ⟨_, .unrestored asked unset (sets set before) ?_⟩
    rw [makes made, List.append_assoc]
    rfl
  | failed asked had differs set made lasting restored =>
    refine ⟨_, .failed asked had differs (sets set before) (makes made _) lasting ?_⟩
    rw [sets restored, List.append_assoc, List.append_assoc]
    rfl
  | succeeded asked had differs set made restored =>
    refine ⟨_, .succeeded asked had differs (sets set before) (makes made _) ?_⟩
    rw [sets restored, List.append_assoc, List.append_assoc]
    rfl

end

/-! ## Steps inside one another -/

/-- A step that leaves the timeout of a session alone. -/
structure Quiet (σ : Type) [TimedSession σ] (α : Type) where
  step : Action σ α
  keeps : ∀ state, sessionTimeout (step.perform state).2 = sessionTimeout state

/-- What is done in a session: quiet steps and blocks under timeouts of their own, each going on with the outcome of
the one before, whatever it is. -/
inductive Block (σ : Type) [TimedSession σ] : Type → Type 1 where
  | ends {α : Type} (outcome : Except Failure α) : Block σ α
  | quiet {α β : Type} (work : Quiet σ α) (next : Except Failure α → Block σ β) : Block σ β
  | under {α β : Type} (timeout : Option Nat) (block : Block σ α) (next : Except Failure α → Block σ β) : Block σ β

namespace Block

variable {σ : Type} [TimedSession σ]

/-- A step with its outcome for a value. -/
def attempted {τ α : Type} (step : Action τ α) : Action τ (Except Failure α) := mapOutcome .ok step

/-- The step of a block. -/
def step {α : Type} : Block σ α → Action σ α
  | ends outcome => .ofExcept outcome
  | quiet work next => do
    let outcome ← attempted work.step
    (next outcome).step
  | under timeout block next => do
    let outcome ← attempted (withTimeout timeout block.step)
    (next outcome).step

/-- The step of a block that is watched, under an enclosing timeout: each block inside it is noted, with the timeout due
to it, which is its own or else the enclosing one. -/
def watchedStep {α : Type} : Block σ α → (enclosing : Nat) → Action (Watched σ) α
  | ends outcome, _ => .ofExcept outcome
  | quiet work next, enclosing => do
    let outcome ← attempted (Watched.onSession work.step)
    (next outcome).watchedStep enclosing
  | under timeout block next, enclosing => do
    let due := timeout.getD enclosing
    let outcome ← attempted (withTimeout timeout (Watched.noted (some due) (block.watchedStep due)))
    (next outcome).watchedStep enclosing

end Block

/-- A timeout that was set is in force. -/
def Records (σ : Type) [TimedSession σ] : Prop :=
  ∀ ms (state after : σ), (setTimeout ms : Action σ Unit).perform state = (.ok (), after) →
    sessionTimeout after = some ms

/-- A client whose timeout is the one its server acknowledged is such a session. -/
theorem records_of_lawful {σ : Type} [SessionClient σ] [SessionClient.LawfulTimeout σ] : Records σ := by
  intro ms client after performed
  rcases SessionClient.LawfulTimeout.setTimeout_cases ms client with
    ⟨inForce, done⟩ | ⟨_, refused⟩ | ⟨_, _, _, _, _, ⟨_, refused, _⟩ | ⟨done, inForce⟩⟩
  · cases done.symm.trans performed
    exact inForce
  · cases refused.symm.trans performed
  · cases refused.symm.trans performed
  · cases done.symm.trans performed
    exact inForce

namespace SessionEvent

/-- No timeout failed to be set, and nobody gave up. -/
def Undisturbed : SessionEvent → Prop
  | set _ outcome => outcome = .ok ()
  | made _ _ failure => failure ≠ some .interrupted

/-- A step began under the timeout that was due to it. -/
def InDue : SessionEvent → Prop
  | set .. => True
  | made due inForce _ => inForce = due

end SessionEvent

section

variable {σ α β : Type} [TimedSession σ]

/-- Undisturbed, a step under an enclosing timeout leaves it in force, and all steps in it begin under those due. -/
def Nests (enclosing : Nat) (step : Action σ α) (events : σ → List SessionEvent) : Prop :=
  ∀ state, sessionTimeout state = some enclosing → (∀ event ∈ events state, event.Undisturbed) →
    (∀ event ∈ events state, event.InDue) ∧ sessionTimeout (step.perform state).2 = some enclosing

theorem Block.perform_attempted_bind {τ : Type} (step : Action τ α) (next : Except Failure α → Action τ β) (state : τ) :
    (Block.attempted step >>= next).perform state = (next (step.perform state).1).perform (step.perform state).2 := by
  rw [perform_bind, Block.attempted, perform_mapOutcome]

omit [TimedSession σ] in
theorem Watched.Follows.bind {watched : Action (Watched σ) α} {step : Action σ α} {events : σ → List SessionEvent}
    (follows : Follows watched step events) {watchedNext : Except Failure α → Action (Watched σ) β}
    {next : Except Failure α → Action σ β} {later : Except Failure α → σ → List SessionEvent}
    (rest : ∀ outcome, Follows (watchedNext outcome) (next outcome) (later outcome)) :
    Follows (Block.attempted watched >>= watchedNext) (Block.attempted step >>= next) fun state =>
      events state ++ later (step.perform state).1 (step.perform state).2 := by
  intro state before
  rw [Block.perform_attempted_bind, Block.perform_attempted_bind, follows, rest, List.append_assoc]

theorem Nests.bind {enclosing : Nat} {step : Action σ α} {events : σ → List SessionEvent}
    (first : Nests enclosing step events) {next : Except Failure α → Action σ β}
    {later : Except Failure α → σ → List SessionEvent} (rest : ∀ outcome, Nests enclosing (next outcome) (later outcome)) :
    Nests enclosing (Block.attempted step >>= next) fun state =>
      events state ++ later (step.perform state).1 (step.perform state).2 := by
  intro state inForce undisturbed
  rw [List.forall_mem_append] at undisturbed
  obtain ⟨dues, between⟩ := first state inForce undisturbed.1
  obtain ⟨laterDues, after⟩ := rest _ _ between undisturbed.2
  rw [Block.perform_attempted_bind]
  exact ⟨List.forall_mem_append.mpr ⟨dues, laterDues⟩, after⟩

/-- The events of a step that is noted behind its own. -/
def withMade (due : Option Nat) (step : Action σ α) (events : σ → List SessionEvent) (state : σ) : List SessionEvent :=
  events state ++ [.made due (sessionTimeout state) (Watched.failure? (step.perform state).1)]

theorem Nests.withMade {due : Nat} {step : Action σ α} {events : σ → List SessionEvent} (nests : Nests due step events) :
    Nests due step (withMade (some due) step events) := by
  intro state inForce undisturbed
  rw [BrowserWait.withMade, List.forall_mem_append] at undisturbed
  obtain ⟨dues, after⟩ := nests state inForce undisturbed.1
  refine ⟨List.forall_mem_append.mpr ⟨dues, fun event member => ?_⟩, after⟩
  cases List.mem_singleton.mp member
  exact inForce

theorem Nests.between_sets (records : Records σ) {ms former : Nat} {step : Action σ α} {events : σ → List SessionEvent}
    (nests : Nests ms step events) {state begun between after : σ} {put : Except Failure Unit}
    (granted : (setTimeout ms : Action σ Unit).perform state = (.ok (), begun))
    (restored : (setTimeout former : Action σ Unit).perform between = (put, after))
    (undisturbed : ∀ event ∈ .set ms (.ok ()) :: events begun ++ [.set former put], event.Undisturbed) :
    (∀ event ∈ .set ms (.ok ()) :: events begun ++ [.set former put], event.InDue) ∧
      sessionTimeout after = some former := by
  rw [List.forall_mem_append, List.forall_mem_cons, List.forall_mem_singleton] at undisturbed ⊢
  obtain ⟨⟨_, inside⟩, putBack⟩ := undisturbed
  have begunInForce : sessionTimeout begun = some ms := records ms state begun granted
  cases (putBack : put = .ok ())
  exact ⟨⟨⟨trivial, (nests begun begunInForce inside).1⟩, trivial⟩, records former between after restored⟩

/-- A step that nests under the timeout due to it nests under the enclosing one when it is made under its own. -/
theorem UnderTimeout.nests (records : Records σ) {timeout : Option Nat} {enclosing : Nat} {step : Action σ α}
    {events : σ → List SessionEvent} (nests : Nests (timeout.getD enclosing) step events) {state : σ}
    {outcome : Except Failure α} {after : σ} {happened : List SessionEvent}
    (course : UnderTimeout timeout step (withMade (some (timeout.getD enclosing)) step events) state outcome after
      happened)
    (inForce : sessionTimeout state = some enclosing) (undisturbed : ∀ event ∈ happened, event.Undisturbed) :
    (∀ event ∈ happened, event.InDue) ∧ sessionTimeout after = some enclosing := by
  replace nests := nests.withMade
  cases course with
  | plain same made =>
    have due : timeout.getD enclosing = enclosing := by
      rcases same with rfl | same
      · rfl
      · rw [same, inForce]
        rfl
    rw [due] at nests undisturbed ⊢
    have settled := nests state inForce undisturbed
    rw [made] at settled
    exact settled
  | refused asked differs set => cases undisturbed _ (List.mem_singleton.mpr rfl)
  | interrupted asked differs set made =>
    -- the step is noted with the failure that nobody may give up with
    refine absurd ?_ (undisturbed _ (List.mem_cons_of_mem _ (List.mem_append_right _ (List.mem_singleton.mpr rfl))))
    rw [made]
    rfl
  | unrestored asked unset set made => cases unset.symm.trans inForce
  | @failed ms former begun between after failure put asked had differs set made lasting restored =>
    cases had.symm.trans inForce
    subst asked
    exact nests.between_sets records set restored undisturbed
  | @succeeded ms former begun between after value put asked had differs set made restored =>
    cases had.symm.trans inForce
    subst asked
    exact nests.between_sets records set restored undisturbed

theorem Block.exists_nests (records : Records σ) (block : Block σ α) (enclosing : Nat) :
    ∃ events, Watched.Follows (block.watchedStep enclosing) block.step events ∧
      Nests enclosing block.step events := by
  -- each scope nests by the induction on what is in it, and what is done behind it nests for every outcome
  induction block generalizing enclosing with
  | ends outcome =>
    refine ⟨fun _ => [], fun state before => ?_, fun state inForce _ => ⟨List.forall_mem_nil _, inForce⟩⟩
    rw [List.append_nil]
    rfl
  | quiet work next ih =>
    choose later follows nests using fun outcome => ih outcome enclosing
    refine ⟨_, (Watched.follows_onSession work.step).bind follows, Nests.bind (fun state inForce _ => ?_) nests⟩
    exact ⟨List.forall_mem_nil _, (work.keeps state).trans inForce⟩
  | under timeout block next ihBlock ih =>
    choose later follows nests using fun outcome => ih outcome enclosing
    obtain ⟨inside, insideFollows, insideNests⟩ := ihBlock (timeout.getD enclosing)
    choose outcome after happened course using
      exists_underTimeout timeout block.step (withMade (some (timeout.getD enclosing)) block.step inside)
    have performed (state : σ) : (withTimeout timeout block.step).perform state = (outcome state, after state) :=
      (course state).perform
    have scopeFollows : Watched.Follows
        (withTimeout timeout (Watched.noted (some (timeout.getD enclosing)) (block.watchedStep (timeout.getD enclosing))))
        (withTimeout timeout block.step) happened := by
      intro state before
      rw [performed]
      exact (course state).watched (insideFollows.noted _) before
    have scopeNests : Nests enclosing (withTimeout timeout block.step) happened := by
      intro state inForce undisturbed
      rw [performed]
      exact (course state).nests records insideNests inForce undisturbed
    exact ⟨_, scopeFollows.bind follows, scopeNests.bind nests⟩

end

/-- A step under a timeout goes in one of the ways of `UnderTimeout`, with just the events of that way. Steps under
timeouts, nested to any depth in a session that has one, each begin under the timeout they ask for or else the enclosing
one, and at last the session has its timeout back, unless a timeout could not be set or the caller gave up in one. -/
theorem timeouts_nest :
    (∀ {σ α : Type} [TimedSession σ] (timeout : Option Nat) (step : Action σ α) (state : σ),
      let due := timeout.or (sessionTimeout state)
      ∃ outcome after happened,
        UnderTimeout timeout step (withMade due step fun _ => []) state outcome after happened ∧
          (withTimeout timeout step).perform state = (outcome, after) ∧
          ∀ before, (withTimeout timeout (Watched.noted due (Watched.onSession step))).perform ⟨state, before⟩ =
            (outcome, ⟨after, before ++ happened⟩)) ∧
    (∀ {σ α : Type} [TimedSession σ], Records σ → ∀ (block : Block σ α) (enclosing : Nat) (state : σ),
      sessionTimeout state = some enclosing →
        let happened := Watched.eventsIn (block.watchedStep enclosing) state
        (∀ before, (block.watchedStep enclosing).perform ⟨state, before⟩ =
          ((block.step.perform state).1, ⟨(block.step.perform state).2, before ++ happened⟩)) ∧
        ((∀ event ∈ happened, event.Undisturbed) →
          (∀ event ∈ happened, event.InDue) ∧ sessionTimeout (block.step.perform state).2 = some enclosing)) := by
  constructor
  · intro σ α _ timeout step state due
    obtain ⟨outcome, after, happened, course⟩ :=
      exists_underTimeout timeout step (withMade due step fun _ => []) state
    exact ⟨outcome, after, happened, course, course.perform,
      course.watched ((Watched.follows_onSession step).noted due)⟩
  · intro σ α _ records block enclosing state inForce happened
    obtain ⟨events, follows, nests⟩ := block.exists_nests records enclosing
    have same : happened = events state := by
      show ((block.watchedStep enclosing).perform ⟨state, []⟩).2.events = events state
      rw [follows, List.nil_append]
    rw [same]
    exact ⟨follows state, nests state inForce⟩

/-- A session that grants every timeout. -/
structure Granting where
  timeout : Option Nat

instance : TimedSession Granting where
  sessionTimeout := Granting.timeout
  setTimeout ms := modify fun session => { session with timeout := some ms }

/-- A block under 500 milliseconds holds one that fails under the same and one under 200. -/
theorem timeouts_nest_granted :
    let inner : Block Granting Unit :=
      .under none (.ends (.error .noSession)) fun (_ : Except Failure Unit) => .under (some 200) (.ends (.ok ())) .ends
    let block : Block Granting Unit := .under (some 500) inner .ends
    let happened := Watched.eventsIn (block.watchedStep 100) ⟨some 100⟩
    Records Granting ∧ sessionTimeout (σ := Granting) ⟨some 100⟩ = some 100 ∧
      happened = [.set 500 (.ok ()), .made (some 500) (some 500) (some .noSession), .set 200 (.ok ()),
        .made (some 200) (some 200) none, .set 500 (.ok ()), .made (some 500) (some 500) none, .set 100 (.ok ())] ∧
      (∀ event ∈ happened, event.Undisturbed) ∧ (∀ event ∈ happened, event.InDue) ∧
      sessionTimeout (block.step.perform ⟨some 100⟩).2 = some 100 := by
  intro inner block happened
  have records : Records Granting := by
    rintro ms state after performed
    cases performed
    rfl
  have listed : happened = [.set 500 (.ok ()), .made (some 500) (some 500) (some .noSession), .set 200 (.ok ()),
      .made (some 200) (some 200) none, .set 500 (.ok ()), .made (some 500) (some 500) none, .set 100 (.ok ())] := rfl
  have undisturbed : ∀ event ∈ happened, event.Undisturbed := by
    rw [listed]
    simp [SessionEvent.Undisturbed]
  exact ⟨records, rfl, listed, undisturbed, (timeouts_nest.2 records block 100 ⟨some 100⟩ rfl).2 undisturbed⟩

end BrowserWait
