import BrowserWait.Wait.Poll
import Mathlib.Tactic.Common

/-!
# Attempts

What a single attempt of a wait can do, and what every wait inherits from that. `attempts_invariant` is the one
induction over the attempts: what holds at the start and survives undecided attempts holds at the last one. The pauses
a wait is given outlast its time, so that last attempt is one that decides (`run_decided`).
-/

namespace BrowserWait

/-- A failure is transient when it is a server's error of a kind that may be retried. -/
theorem Failure.isTransient_iff (failure : Failure) :
    failure.isTransient = true ↔ ∃ status message, failure = .remote status message ∧ status.isRetryable = true := by
  cases failure with
  | remote status message => simp [isTransient, status?]
  | _ => simp [isTransient, status?]

namespace Poll

/-- An outcome that decides nothing: the check does not hold, or its failure may be retried. -/
def NotYet : Except Failure Bool → Prop
  | .ok holds => holds = false
  | .error failure => failure.isTransient = true

/-- An outcome holds, fails for good, or decides nothing. -/
theorem outcome_cases (outcome : Except Failure Bool) :
    outcome = .ok true ∨ (∃ failure, outcome = .error failure ∧ failure.isTransient = false) ∨ NotYet outcome := by
  cases outcome with
  | ok holds =>
    cases holds with
    | true => exact .inl rfl
    | false => exact .inr (.inr rfl)
  | error failure =>
    cases lasting : failure.isTransient with
    | true => exact .inr (.inr lasting)
    | false => exact .inr (.inl ⟨failure, rfl, lasting⟩)

theorem not_notYet_true : ¬ NotYet (.ok true) := fun pending => Bool.noConfusion pending

theorem not_notYet_error {failure : Failure} (lasting : failure.isTransient = false) : ¬ NotYet (.error failure) := by
  intro pending
  exact Bool.false_ne_true (lasting.symm.trans pending)

theorem decision?_of_notYet (progress : Progress) {outcome : Except Failure Bool} (pending : NotYet outcome) :
    decision? progress outcome = none := by
  cases outcome with
  | ok holds =>
    cases pending
    rfl
  | error failure => exact if_pos pending

theorem decision?_error (progress : Progress) {failure : Failure} (lasting : failure.isTransient = false) :
    decision? progress (.error failure) = some (.aborted failure) := by
  rw [decision?, lasting]
  rfl

/-! ## One attempt -/

section

variable {σ : Type} (options : PollOptions) (timeout : Nat) (check : Action (World σ) Bool)

/-- The caller gave up before an attempt. -/
def GivenUp (world : World σ) : Prop := options.cancellable = true ∧ world.cancelled = true

/-- The progress after a check. -/
def advanced (progress : Progress) (world : World σ) : Progress :=
  ⟨progress.attempts + 1, progress.elapsed + ((check.perform world).2.clock - world.clock)⟩

variable {options timeout check} {progress : Progress} {world : World σ}

theorem attempt_of_givenUp (givenUp : GivenUp options world) :
    attempt options timeout check progress world = (.inl (.aborted .interrupted), world) := by
  rw [attempt, givenUp.1, givenUp.2]
  rfl

/-- An attempt checks unless the caller gave up. -/
theorem attempt_eq (free : ¬ GivenUp options world) :
    attempt options timeout check progress world =
      match decision? (advanced check progress world) (check.perform world).1 with
      | some ending => (.inl ending, (check.perform world).2)
      | none =>
        (if isSpent timeout options.frequency (advanced check progress world)
          then .inl (.timedOut (advanced check progress world)) else .inr (advanced check progress world),
          (check.perform world).2) := by
  have lowered : ¬ (options.cancellable && world.cancelled) = true := by
    rw [Bool.and_eq_true]
    exact free
  rw [attempt, if_neg lowered]
  rfl

theorem attempt_of_true (free : ¬ GivenUp options world) (holds : (check.perform world).1 = .ok true) :
    attempt options timeout check progress world =
      (.inl (.satisfied (advanced check progress world)), (check.perform world).2) := by
  rw [attempt_eq free, holds]
  rfl

theorem attempt_of_error (free : ¬ GivenUp options world) {failure : Failure}
    (fails : (check.perform world).1 = .error failure) (lasting : failure.isTransient = false) :
    attempt options timeout check progress world = (.inl (.aborted failure), (check.perform world).2) := by
  rw [attempt_eq free, fails, decision?_error _ lasting]

theorem attempt_of_notYet (free : ¬ GivenUp options world) (pending : NotYet (check.perform world).1) :
    attempt options timeout check progress world =
      (if isSpent timeout options.frequency (advanced check progress world)
        then .inl (.timedOut (advanced check progress world)) else .inr (advanced check progress world),
        (check.perform world).2) := by
  rw [attempt_eq free, decision?_of_notYet _ pending]

/-- A check that does the same and is never satisfied. -/
def unmet (check : Action (World σ) Bool) : Action (World σ) Bool := Action.mapOutcome (fun _ => .ok false) check

/-- A failed check counts as one that is not satisfied exactly when its failure may be retried. -/
theorem attempt_unmet_iff (free : ¬ GivenUp options world) {failure : Failure}
    (fails : (check.perform world).1 = .error failure) :
    attempt options timeout check progress world = attempt options timeout (unmet check) progress world ↔
      failure.isTransient = true := by
  have unmet_pending : NotYet ((unmet check).perform world).1 := rfl
  rw [attempt_of_notYet free unmet_pending]
  constructor
  · intro same
    by_contra lasting
    rw [attempt_of_error free fails (Bool.eq_false_iff.mpr lasting)] at same
    split at same <;> cases same
  · intro transient
    have pending : NotYet (check.perform world).1 := fails ▸ transient
    rw [attempt_of_notYet free pending]
    rfl

/-- Everything an attempt can do. -/
theorem attempt_cases (options : PollOptions) (timeout : Nat) (check : Action (World σ) Bool) (progress : Progress)
    (world : World σ) :
    (GivenUp options world ∧
        attempt options timeout check progress world = (.inl (.aborted .interrupted), world)) ∨
      ¬ GivenUp options world ∧
        (((check.perform world).1 = .ok true ∧
            attempt options timeout check progress world =
              (.inl (.satisfied (advanced check progress world)), (check.perform world).2)) ∨
          (∃ failure, (check.perform world).1 = .error failure ∧ failure.isTransient = false ∧
            attempt options timeout check progress world = (.inl (.aborted failure), (check.perform world).2)) ∨
          NotYet (check.perform world).1 ∧
            attempt options timeout check progress world =
              (if isSpent timeout options.frequency (advanced check progress world)
                then .inl (.timedOut (advanced check progress world)) else .inr (advanced check progress world),
                (check.perform world).2)) := by
  by_cases givenUp : GivenUp options world
  · exact .inl ⟨givenUp, attempt_of_givenUp givenUp⟩
  · refine .inr ⟨givenUp, ?_⟩
    rcases outcome_cases (check.perform world).1 with holds | ⟨failure, fails, lasting⟩ | pending
    · exact .inl ⟨holds, attempt_of_true givenUp holds⟩
    · exact .inr (.inl ⟨failure, fails, lasting, attempt_of_error givenUp fails lasting⟩)
    · exact .inr (.inr ⟨pending, attempt_of_notYet givenUp pending⟩)

/-- An undecided attempt made a check that decided nothing, and left time. -/
theorem undecided_eq {next : Progress} {after : World σ}
    (undecided : attempt options timeout check progress world = (.inr next, after)) :
    NotYet (check.perform world).1 ∧ ¬ isSpent timeout options.frequency next = true ∧
      next = advanced check progress world ∧ after = (check.perform world).2 := by
  rcases attempt_cases options timeout check progress world with
    ⟨_, ended⟩ | ⟨_, ⟨_, ended⟩ | ⟨_, _, _, ended⟩ | ⟨pending, ended⟩⟩
  · rw [ended] at undecided
    cases undecided
  · rw [ended] at undecided
    cases undecided
  · rw [ended] at undecided
    cases undecided
  · by_cases spent : isSpent timeout options.frequency (advanced check progress world) = true
    · rw [ended, if_pos spent] at undecided
      cases undecided
    · rw [ended, if_neg spent] at undecided
      cases undecided
      exact ⟨pending, spent, rfl, rfl⟩

/-- An attempt is broken off by the caller, or by a failure for good. -/
theorem aborted_cases {failure : Failure} {after : World σ}
    (aborted : attempt options timeout check progress world = (.inl (.aborted failure), after)) :
    GivenUp options world ∧ failure = .interrupted ∨
      (check.perform world).1 = .error failure ∧ failure.isTransient = false := by
  rcases attempt_cases options timeout check progress world with
    ⟨givenUp, ended⟩ | ⟨_, ⟨_, ended⟩ | ⟨cause, fails, lasting, ended⟩ | ⟨_, ended⟩⟩
  · rw [ended] at aborted
    cases aborted
    exact .inl ⟨givenUp, rfl⟩
  · rw [ended] at aborted
    cases aborted
  · rw [ended] at aborted
    cases aborted
    exact .inr ⟨fails, lasting⟩
  · rw [ended] at aborted
    split at aborted
    · cases aborted
    · cases aborted

/-- A check that holds is behind every attempt that ends a wait well. -/
theorem satisfied_cases {ended : Progress} {after : World σ}
    (decided : attempt options timeout check progress world = (.inl (.satisfied ended), after)) :
    check.perform world = (.ok true, after) := by
  rcases attempt_cases options timeout check progress world with
    ⟨_, ended⟩ | ⟨_, ⟨holds, ended⟩ | ⟨_, _, _, ended⟩ | ⟨_, ended⟩⟩
  · cases decided.symm.trans ended
  · cases decided.symm.trans ended
    exact Prod.ext holds rfl
  · cases decided.symm.trans ended
  · rw [ended] at decided
    split at decided
    · cases decided
    · cases decided

end

/-! ## All attempts -/

section

variable {σ : Type} {options : PollOptions} {timeout : Nat} {check : Action (World σ) Bool}

/-- A fact about the pauses left, the progress and the world survives undecided attempts with their pauses. -/
def Survives (options : PollOptions) (timeout : Nat) (check : Action (World σ) Bool)
    (motive : (pausesLeft : Nat) → Progress → World σ → Prop) : Prop :=
  ∀ pausesLeft progress world next after, motive (pausesLeft + 1) progress world →
    attempt options timeout check progress world = (.inr next, after) →
    motive pausesLeft ⟨next.attempts, next.elapsed + step options.frequency⟩ (after.later (step options.frequency))

/-- What holds at the start and survives holds at the last attempt. That attempt ends the wait, or it is undecided and
no pause is left. -/
theorem attempts_invariant {motive : (pausesLeft : Nat) → Progress → World σ → Prop}
    (survives : Survives options timeout check motive)
    {pausesLeft : Nat} {progress : Progress} {world : World σ} (start : motive pausesLeft progress world) :
    ∃ left last before, motive left last before ∧
      ((∃ ending after, attempt options timeout check last before = (.inl ending, after) ∧
          attempts options timeout check pausesLeft progress world = (ending, after)) ∨
        left = 0 ∧ ∃ next after, attempt options timeout check last before = (.inr next, after) ∧
          attempts options timeout check pausesLeft progress world = (.timedOut next, after)) := by
  induction pausesLeft generalizing progress world with
  | zero =>
    refine ⟨0, progress, world, start, ?_⟩
    rw [attempts]
    rcases decided : attempt options timeout check progress world with ⟨ending | next, after⟩
    · exact .inl ⟨ending, after, rfl, rfl⟩
    · exact .inr ⟨rfl, next, after, rfl, rfl⟩
  | succ pausesLeft ih =>
    rcases decided : attempt options timeout check progress world with ⟨ending | next, after⟩
    · refine ⟨pausesLeft + 1, progress, world, start, .inl ⟨ending, after, decided, ?_⟩⟩
      rw [attempts, decided]
    · obtain ⟨left, last, before, holds, ends⟩ := ih (survives _ _ _ _ _ start decided)
      refine ⟨left, last, before, holds, ?_⟩
      rw [attempts, decided]
      exact ends

/-! ## The last attempt -/

/-- With the pauses left a wait comes to the attempts it owes, and its time is over. -/
structure Covers (timeout frequency pausesLeft : Nat) (progress : Progress) : Prop where
  attempts : progress.attempts + pausesLeft = pauses timeout frequency
  time : timeout ≤ progress.elapsed + pausesLeft * step frequency

theorem le_pauses_mul_step (timeout frequency : Nat) : timeout ≤ pauses timeout frequency * step frequency := by
  have positive : 0 < step frequency := Nat.lt_of_lt_of_le Nat.one_pos (Nat.le_max_right frequency 1)
  have whole := Nat.lt_div_mul_add positive (a := timeout + step frequency - 1)
  rw [pauses]
  omega

theorem covers_start (timeout frequency : Nat) : Covers timeout frequency (pauses timeout frequency) {} :=
  ⟨Nat.zero_add _, Nat.le_trans (le_pauses_mul_step timeout frequency) (Nat.le_add_left _ _)⟩

theorem survives_covers :
    Survives options timeout check fun pausesLeft progress _ => Covers timeout options.frequency pausesLeft progress := by
  rintro pausesLeft progress world next after ⟨attempts, time⟩ undecided
  obtain ⟨_, _, rfl, _⟩ := undecided_eq undecided
  rw [Nat.succ_mul] at time
  constructor
  · show progress.attempts + 1 + pausesLeft = _
    omega
  · show timeout ≤ progress.elapsed + _ + step options.frequency + pausesLeft * step options.frequency
    omega

/-- Without a pause left, an attempt that decides nothing finds the time spent. -/
theorem Covers.decided {progress next : Progress} {world after : World σ}
    (covers : Covers timeout options.frequency 0 progress) :
    attempt options timeout check progress world ≠ (.inr next, after) := by
  intro undecided
  obtain ⟨attempts, time⟩ := covers
  obtain ⟨_, unspent, rfl, _⟩ := undecided_eq undecided
  refine unspent ?_
  rw [isSpent, minAttempts, Bool.and_eq_true, decide_eq_true_eq, decide_eq_true_eq]
  constructor
  · show max (pauses timeout options.frequency) 1 ≤ progress.attempts + 1
    omega
  · show timeout ≤ progress.elapsed + _
    omega

/-- A wait ends by an attempt that decides, never for want of pauses; and what holds at its start and survives holds
there. -/
theorem run_decided {motive : (pausesLeft : Nat) → Progress → World σ → Prop}
    (survives : Survives options timeout check motive) {world : World σ}
    (start : motive (pauses timeout options.frequency) {} world) :
    ∃ left last before ending after, motive left last before ∧
      attempt options timeout check last before = (.inl ending, after) ∧
      run options timeout check world = (ending, after) := by
  have both : Survives options timeout check fun pausesLeft progress world =>
      motive pausesLeft progress world ∧ Covers timeout options.frequency pausesLeft progress :=
    fun _ _ _ _ _ holds undecided =>
      ⟨survives _ _ _ _ _ holds.1 undecided, survives_covers _ _ _ _ _ holds.2 undecided⟩
  obtain ⟨left, last, before, ⟨holds, covers⟩, ⟨ending, after, decided, ends⟩ | ⟨rfl, next, after, undecided, _⟩⟩ :=
    attempts_invariant both ⟨start, covers_start timeout options.frequency⟩
  · exact ⟨left, last, before, ending, after, holds, decided, ends⟩
  · exact absurd undecided covers.decided

/-- A wait is broken off by the caller, or by a failure for good, where what survives still holds. -/
theorem run_aborted {motive : (pausesLeft : Nat) → Progress → World σ → Prop}
    (survives : Survives options timeout check motive) {world : World σ}
    (start : motive (pauses timeout options.frequency) {} world) {failure : Failure} {after : World σ}
    (aborted : run options timeout check world = (.aborted failure, after)) :
    ∃ left last before, motive left last before ∧
      (GivenUp options before ∧ failure = .interrupted ∨
        (check.perform before).1 = .error failure ∧ failure.isTransient = false) := by
  obtain ⟨left, last, before, _, _, holds, decided, ends⟩ := run_decided survives start
  cases aborted.symm.trans ends
  exact ⟨left, last, before, holds, aborted_cases decided⟩

/-- A wait ends well by a check that holds, where what survives still holds. -/
theorem run_held {motive : (pausesLeft : Nat) → Progress → World σ → Prop}
    (survives : Survives options timeout check motive) {world after : World σ}
    (start : motive (pauses timeout options.frequency) {} world) {progress : Progress}
    (satisfied : run options timeout check world = (.satisfied progress, after)) :
    ∃ left last before, motive left last before ∧ check.perform before = (.ok true, after) := by
  obtain ⟨left, last, before, _, _, holds, decided, ends⟩ := run_decided survives start
  cases satisfied.symm.trans ends
  exact ⟨left, last, before, holds, satisfied_cases decided⟩

theorem Ending.eq_satisfied {ending : Ending} {label : String}
    (success : (ending.result label).map WaitResult.success = .ok true) :
    ∃ progress, ending = .satisfied progress := by
  cases ending with
  | satisfied progress => exact ⟨progress, rfl⟩
  | timedOut progress => cases success
  | aborted failure => cases success

end

end Poll

end BrowserWait
