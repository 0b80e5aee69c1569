import BrowserWait.Proofs.Poll.Schedule

/-!
# Cancellation

What becomes of a flag that is raised while a check runs. The flag is looked at in front of every check, so a wait ends
there without another one, whichever check it was and however long the checks take. Only the check with which time runs
out has none behind it: such a wait times out, and the raised flag is not looked at (`cancelled_in_check`).
-/

namespace BrowserWait

namespace Poll

variable {σ : Type}

/-! ## Checks that take time -/

section

variable (options : PollOptions) (timeout : Nat) (check : Action (World σ) Bool) (world : World σ)

/-- The progress in front of the check behind `made` others, the pauses included. -/
def progressBefore : (made : Nat) → Progress
  | 0 => {}
  | made + 1 =>
    let progress := advanced check (progressBefore made) (before options.frequency check world made)
    ⟨progress.attempts, progress.elapsed + options.frequency⟩

/-- The progress behind that check. -/
def progressBehind (made : Nat) : Progress :=
  advanced check (progressBefore options check world made) (before options.frequency check world made)

/-- Time is up behind the check that has `made` others in front of it. -/
def TimeUp (made : Nat) : Prop := isSpent timeout options.frequency (progressBehind options check world made) = true

/-- A wait makes the check behind `made` others: the caller has not given up in front of it or of an earlier one, and
the earlier ones decided nothing and left time. -/
structure Makes (made : Nat) : Prop where
  free : ∀ earlier ≤ made, ¬ GivenUp options (before options.frequency check world earlier)
  pending : ∀ earlier < made, NotYet (outcome options.frequency check world earlier)
  time : ∀ earlier < made, ¬ TimeUp options timeout check world earlier

end

section

variable {options : PollOptions} {timeout : Nat} {check : Action (World σ) Bool} {world : World σ} {made : Nat}

theorem progressBefore_attempts (made : Nat) : (progressBefore options check world made).attempts = made := by
  induction made with
  | zero => rfl
  | succ made ih =>
    show (progressBefore options check world made).attempts + 1 = made + 1
    rw [ih]

theorem progressBehind_attempts (made : Nat) : (progressBehind options check world made).attempts = made + 1 := by
  rw [progressBehind, advanced, progressBefore_attempts]

/-- The pauses alone take their time. -/
theorem pauses_le_elapsed (made : Nat) :
    made * options.frequency ≤ (progressBefore options check world made).elapsed := by
  induction made with
  | zero => exact Nat.le_of_eq (Nat.zero_mul _)
  | succ made ih =>
    have counted : (progressBefore options check world (made + 1)).elapsed =
        (progressBefore options check world made).elapsed +
          ((left options.frequency check world made).clock - (before options.frequency check world made).clock) +
          options.frequency := rfl
    rw [counted, Nat.succ_mul]
    omega

/-- When the pauses fill it, time is up whatever the checks take. -/
theorem timeUp_of_le (positive : 1 ≤ options.frequency) (filled : timeout ⌈/⌉ options.frequency ≤ made) :
    TimeUp options timeout check world made := by
  have elapsed : made * options.frequency ≤ (progressBehind options check world made).elapsed :=
    Nat.le_trans (pauses_le_elapsed made) (Nat.le_add_right _ _)
  have time : timeout ≤ options.frequency * made := (ceilDiv_le_iff_le_mul positive).mp filled
  rw [TimeUp, isSpent, minAttempts, pauses_eq positive, Bool.and_eq_true, decide_eq_true_eq, decide_eq_true_eq,
    progressBehind_attempts]
  rw [Nat.mul_comm] at time
  exact ⟨by omega, by omega⟩

/-- Where only the pauses take time, it is up behind the last check a wait can make. -/
theorem timeUp_iff (positive : 1 ≤ options.frequency) (instant : Instant check) (made : Nat) :
    TimeUp options timeout check world made ↔ timeout ⌈/⌉ options.frequency ≤ made := by
  have counted (progress : Progress) (now : World σ) :
      advanced check progress now = ⟨progress.attempts + 1, progress.elapsed⟩ := by
    rw [advanced, instant, Nat.sub_self]
    rfl
  have elapsed : (progressBefore options check world made).elapsed = made * options.frequency := by
    induction made with
    | zero => exact (Nat.zero_mul _).symm
    | succ made ih => rw [progressBefore, counted, ih, Nat.succ_mul]
  rw [TimeUp, progressBehind, counted, progressBefore_attempts, elapsed]
  exact isSpent_iff positive made

theorem Makes.le (makes : Makes options timeout check world made) (positive : 1 ≤ options.frequency) :
    made ≤ timeout ⌈/⌉ options.frequency := by
  by_contra late
  have up : TimeUp options timeout check world (timeout ⌈/⌉ options.frequency) := timeUp_of_le positive (Nat.le_refl _)
  exact makes.time _ (by omega) up

theorem Makes.earlier (makes : Makes options timeout check world (made + 1)) :
    Makes options timeout check world made :=
  ⟨fun earlier le => makes.free earlier (by omega), fun earlier less => makes.pending earlier (by omega),
    fun earlier less => makes.time earlier (by omega)⟩

/-! ## The attempts up to a check -/

/-- An attempt that decides nothing and leaves time leads to the next check. -/
theorem attempts_succ (positive : 1 ≤ options.frequency)
    (free : ¬ GivenUp options (before options.frequency check world made))
    (pending : NotYet (outcome options.frequency check world made)) (time : ¬ TimeUp options timeout check world made)
    (pausesLeft : Nat) :
    attempts options timeout check (pausesLeft + 1) (progressBefore options check world made)
        (before options.frequency check world made) =
      attempts options timeout check pausesLeft (progressBefore options check world (made + 1))
        (before options.frequency check world (made + 1)) := by
  have unspent : ¬ isSpent timeout options.frequency
      (advanced check (progressBefore options check world made) (before options.frequency check world made)) = true :=
    time
  rw [attempts, attempt_of_notYet free pending, if_neg unspent]
  dsimp only
  rw [step_eq positive]
  rfl

/-- A wait goes on from any check that it makes as if it began there. -/
theorem attempts_of_makes (positive : 1 ≤ options.frequency) (makes : Makes options timeout check world made)
    (pausesLeft : Nat) :
    attempts options timeout check (made + pausesLeft) {} world =
      attempts options timeout check pausesLeft (progressBefore options check world made)
        (before options.frequency check world made) := by
  induction made generalizing pausesLeft with
  | zero => rw [Nat.zero_add, progressBefore, before]
  | succ made ih =>
    -- the pause behind the check that is added is one of those left in front of it
    have total : made + 1 + pausesLeft = made + (pausesLeft + 1) := by omega
    rw [total, ih makes.earlier]
    exact attempts_succ positive (makes.free made (Nat.le_succ made)) (makes.pending made (Nat.lt_succ_self made))
      (makes.time made (Nat.lt_succ_self made)) pausesLeft

/-- Behind a check that decides nothing a wait times out if time is up. -/
theorem run_timeUp (positive : 1 ≤ options.frequency) (makes : Makes options timeout check world made)
    (pending : NotYet (outcome options.frequency check world made)) (up : TimeUp options timeout check world made) :
    run options timeout check world =
      (.timedOut (progressBehind options check world made), left options.frequency check world made) := by
  obtain ⟨pausesLeft, total⟩ := Nat.exists_eq_add_of_le (makes.le positive)
  have spent : isSpent timeout options.frequency
      (advanced check (progressBefore options check world made) (before options.frequency check world made)) = true :=
    up
  rw [run, pauses_eq positive, total, attempts_of_makes positive makes, attempts,
    attempt_of_notYet (makes.free made (Nat.le_refl made)) pending, if_pos spent]
  rfl

/-- If time is left, and the caller has given up since, the wait ends in front of the next check. -/
theorem run_givenUp (positive : 1 ≤ options.frequency) (makes : Makes options timeout check world made)
    (pending : NotYet (outcome options.frequency check world made)) (time : ¬ TimeUp options timeout check world made)
    (givenUp : GivenUp options (before options.frequency check world (made + 1))) :
    run options timeout check world =
      (.aborted .interrupted, before options.frequency check world (made + 1)) := by
  -- with time left there is a pause left, and the flag is looked at behind it
  have early : made < timeout ⌈/⌉ options.frequency := by
    by_contra late
    exact time (timeUp_of_le positive (Nat.le_of_not_lt late))
  obtain ⟨pausesLeft, total⟩ := Nat.exists_eq_add_of_lt early
  rw [run, pauses_eq positive, total, Nat.add_assoc, attempts_of_makes positive makes,
    attempts_succ positive (makes.free made (Nat.le_refl made)) pending time, attempts, attempt_of_givenUp givenUp]

/-! ## Flags raised in a check -/

/-- When the flag is raised in a check that decides nothing, a wait ends interrupted in front of the next check, which
is not made, unless time is up behind that very check: then it times out. Where only the pauses take time, that is the
check behind `timeout ⌈/⌉ frequency` others. -/
theorem cancelled_in_check [Browser σ] (options : PollOptions) (label : String) (check : Action (World σ) Bool)
    (world : World σ) (positive : 1 ≤ options.frequency) (cancellable : options.cancellable = true) (made : Nat) :
    let timeout := options.timeout.getD (Browser.currentTimeout world.browser)
    Makes options timeout check world made → NotYet (outcome options.frequency check world made) →
      (left options.frequency check world made).cancelled = true →
      (¬ TimeUp options timeout check world made →
          (wait options label check).perform world =
              (.error .interrupted, before options.frequency check world (made + 1)) ∧
            (run options timeout check world).1.phase = .idle) ∧
        (TimeUp options timeout check world made →
          ∃ elapsed, (wait options label check).perform world =
            (.ok { success := false, elapsed, attempts := made + 1, waitedFor := label },
              left options.frequency check world made)) ∧
        (Instant check → (TimeUp options timeout check world made ↔ timeout ⌈/⌉ options.frequency ≤ made)) := by
  intro timeout makes pending raised
  have performed : (wait options label check).perform world =
      ((run options timeout check world).1.result label, (run options timeout check world).2) := rfl
  refine ⟨fun time => ?_, fun up => ?_, fun instant => timeUp_iff positive instant made⟩
  · have givenUp : GivenUp options (before options.frequency check world (made + 1)) := ⟨cancellable, raised⟩
    rw [performed, run_givenUp positive makes pending time givenUp]
    exact ⟨rfl, rfl⟩
  · refine ⟨(progressBehind options check world made).elapsed, ?_⟩
    rw [performed, run_timeUp positive makes pending up, Ending.result, progressBehind_attempts]

end

/-- A flag that goes up in the second of six checks ends the wait there. -/
theorem cancelled_in_second_check :
    let options : PollOptions := { timeout := some 10, frequency := 2, cancellable := true }
    let check : Action (World PageModel) Bool := scheduled 2 (fun _ => .ok false) (fun made => made == 2)
    let world : World PageModel := { browser := {} }
    1 ≤ options.frequency ∧ options.cancellable = true ∧ Makes options 10 check world 1 ∧
      NotYet (outcome options.frequency check world 1) ∧ (left options.frequency check world 1).cancelled = true ∧
      ¬ TimeUp options 10 check world 1 ∧
      ∃ after, (wait options "banner" check).perform world = (.error .interrupted, after) := by
  intro options check world
  have positive : 1 ≤ options.frequency := by decide
  have flag (made : Nat) : (before options.frequency check world made).cancelled = (made == 2) :=
    congrArg World.cancelled (before_scheduled positive (fun _ => .ok false) _ ({} : PageModel) made)
  have pending (made : Nat) : NotYet (outcome options.frequency check world made) := by
    have missing : outcome options.frequency check world made = .ok false :=
      outcome_scheduled positive _ _ ({} : PageModel) made
    rw [missing]
    rfl
  have time (made : Nat) (less : made < 5) : ¬ TimeUp options 10 check world made := by
    have last : 10 ⌈/⌉ options.frequency = 5 := Nat.ceilDiv_eq_add_pred_div 10 2
    rw [timeUp_iff positive (instant_scheduled 2 _ _), last]
    omega
  have makes : Makes options 10 check world 1 := by
    refine ⟨?_, fun earlier _ => pending earlier, fun earlier less => time earlier (by omega)⟩
    rintro earlier le ⟨_, raised⟩
    rw [flag, beq_iff_eq] at raised
    omega
  have raised : (left options.frequency check world 1).cancelled = true := flag 2
  have left : ¬ TimeUp options 10 check world 1 := time 1 (by decide)
  have ends := cancelled_in_check options "banner" check world positive rfl 1 makes (pending 1) raised
  exact ⟨positive, rfl, makes, pending 1, raised, left, _, (ends.1 left).1⟩

/-- A flag that goes up in the only check of a wait without any time is not looked at: the wait times out. -/
theorem timed_out_cancelled :
    let options : PollOptions := { timeout := some 0, frequency := 1, cancellable := true }
    let check : Action (World PageModel) Bool := .ofPerform fun world => (.ok false, { world with cancelled := true })
    let world : World PageModel := { browser := {} }
    1 ≤ options.frequency ∧ options.cancellable = true ∧ Makes options 0 check world 0 ∧
      NotYet (outcome options.frequency check world 0) ∧ (left options.frequency check world 0).cancelled = true ∧
      (wait options "banner" check).perform world =
        (.ok { success := false, elapsed := 0, attempts := 1, waitedFor := "banner" },
          { browser := {}, cancelled := true }) := by
  intro options check world
  have positive : 1 ≤ options.frequency := by decide
  have makes : Makes options 0 check world 0 := by
    refine ⟨?_, fun earlier less => absurd less (Nat.not_lt_zero earlier),
      fun earlier less => absurd less (Nat.not_lt_zero earlier)⟩
    rintro earlier le ⟨_, raised⟩
    obtain rfl : earlier = 0 := Nat.le_zero.mp le
    cases raised
  have up : TimeUp options 0 check world 0 := timeUp_of_le positive (Nat.le_of_eq (zero_ceilDiv _))
  have timedOut := run_timeUp positive makes rfl up
  refine ⟨positive, rfl, makes, rfl, rfl, ?_⟩
  show ((run options 0 check world).1.result "banner", (run options 0 check world).2) = _
  rw [timedOut]
  rfl

end Poll

end BrowserWait
