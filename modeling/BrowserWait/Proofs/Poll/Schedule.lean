import BrowserWait.Page.Model
import BrowserWait.Proofs.Poll.Attempt
import Mathlib.Algebra.Order.Floor.Div

/-!
# Schedules

Where a wait ends when only its pauses take time. Its checks are numbered by how many were made before: `before` is
the world each of them finds, whatever the checks give and whenever the cancellation flag is raised or lowered. A wait
ends at the first number where something ends it, and time runs out at `timeout ⌈/⌉ frequency`.
-/

namespace BrowserWait

namespace Poll

variable {σ : Type}

/-! ## The checks of a wait -/

section

variable (frequency : Nat) (check : Action (World σ) Bool) (world : World σ)

/-- The world in front of a check when `made` checks were made, each with a pause behind it. -/
def before : (made : Nat) → World σ
  | 0 => world
  | made + 1 => (check.perform (before made)).2.later frequency

/-- The outcome of the check behind `made` others. -/
def outcome (made : Nat) : Except Failure Bool := (check.perform (before frequency check world made)).1

/-- The world that the check behind `made` others leaves. -/
def left (made : Nat) : World σ := (check.perform (before frequency check world made)).2

end

/-- A check takes no time. -/
def Instant (check : Action (World σ) Bool) : Prop := ∀ world, (check.perform world).2.clock = world.clock

/-- What ends a wait when `made` checks were made, each with a pause behind it: the result, the phase and the world it
leaves. A flag that is raised comes before the next check, any other end is that of the check. -/
inductive EndsAt (options : PollOptions) (timeout : Nat) (label : String) (check : Action (World σ) Bool)
    (world : World σ) (made : Nat) : Except Failure WaitResult → Phase → World σ → Prop where
  | cancelled (givenUp : GivenUp options (before options.frequency check world made)) :
    EndsAt options timeout label check world made (.error .interrupted) .idle
      (before options.frequency check world made)
  | satisfied (free : ¬ GivenUp options (before options.frequency check world made))
    (holds : outcome options.frequency check world made = .ok true) :
    EndsAt options timeout label check world made
      (.ok { success := true, elapsed := made * options.frequency, attempts := made + 1, waitedFor := label })
      .satisfied (left options.frequency check world made)
  | failed (free : ¬ GivenUp options (before options.frequency check world made)) {failure : Failure}
    (fails : outcome options.frequency check world made = .error failure) (lasting : failure.isTransient = false) :
    EndsAt options timeout label check world made (.error failure) .idle (left options.frequency check world made)
  | timedOut (free : ¬ GivenUp options (before options.frequency check world made))
    (pending : NotYet (outcome options.frequency check world made)) (last : made = timeout ⌈/⌉ options.frequency) :
    EndsAt options timeout label check world made
      (.ok { success := false, elapsed := made * options.frequency, attempts := made + 1, waitedFor := label })
      .timedOut (left options.frequency check world made)

section

variable {options : PollOptions} {timeout : Nat} {label : String} {check : Action (World σ) Bool} {world : World σ}

theorem EndsAt.phase_eq {made : Nat} {result : Except Failure WaitResult} {phase : Phase} {after : World σ}
    (ends : EndsAt options timeout label check world made result phase after) :
    phase = .timedOut → made = timeout ⌈/⌉ options.frequency := by
  intro spent
  cases ends with
  | timedOut free pending last => exact last
  | cancelled givenUp => cases spent
  | satisfied free holds => cases spent
  | failed free fails lasting => cases spent

theorem not_endsAt {made : Nat} (free : ¬ GivenUp options (before options.frequency check world made))
    (pending : NotYet (outcome options.frequency check world made)) (early : made ≠ timeout ⌈/⌉ options.frequency)
    {result : Except Failure WaitResult} {phase : Phase} {after : World σ} :
    ¬ EndsAt options timeout label check world made result phase after := by
  intro ends
  cases ends with
  | cancelled givenUp => exact free givenUp
  | satisfied _ holds => exact not_notYet_true (holds ▸ pending)
  | failed _ fails lasting => exact not_notYet_error lasting (fails ▸ pending)
  | timedOut _ _ last => exact early last

/-! ## Time -/

theorem step_eq {frequency : Nat} (positive : 1 ≤ frequency) : step frequency = frequency := Nat.max_eq_left positive

theorem pauses_eq {timeout frequency : Nat} (positive : 1 ≤ frequency) :
    pauses timeout frequency = timeout ⌈/⌉ frequency := by
  rw [pauses, step_eq positive, Nat.ceilDiv_eq_add_pred_div]

/-- Time runs out with the pauses that fill it. -/
theorem isSpent_iff {timeout frequency : Nat} (positive : 1 ≤ frequency) (made : Nat) :
    isSpent timeout frequency ⟨made + 1, made * frequency⟩ = true ↔ timeout ⌈/⌉ frequency ≤ made := by
  have spent : timeout ⌈/⌉ frequency ≤ made ↔ timeout ≤ frequency * made := ceilDiv_le_iff_le_mul positive
  rw [isSpent, minAttempts, pauses_eq positive, Bool.and_eq_true, decide_eq_true_eq, decide_eq_true_eq, spent,
    Nat.mul_comm made]
  constructor
  · exact And.right
  · intro filled
    have enough := spent.mpr filled
    exact ⟨show max (timeout ⌈/⌉ frequency) 1 ≤ made + 1 by omega, filled⟩

theorem clock_left (instant : Instant check) (made : Nat) :
    (left options.frequency check world made).clock = (before options.frequency check world made).clock :=
  instant _

theorem clock_before (instant : Instant check) (made : Nat) :
    (before options.frequency check world made).clock = world.clock + made * options.frequency := by
  induction made with
  | zero => rw [before, Nat.zero_mul, Nat.add_zero]
  | succ made ih =>
    have next : (before options.frequency check world (made + 1)).clock =
        (left options.frequency check world made).clock + options.frequency := rfl
    rw [next, clock_left instant, ih, Nat.succ_mul, Nat.add_assoc]

theorem EndsAt.clock_eq (instant : Instant check) {made : Nat} {result : Except Failure WaitResult} {phase : Phase}
    {after : World σ} (ends : EndsAt options timeout label check world made result phase after) :
    after.clock = world.clock + made * options.frequency := by
  cases ends with
  | cancelled givenUp => exact clock_before instant made
  | satisfied free holds => rw [clock_left instant, clock_before instant]
  | failed free fails lasting => rw [clock_left instant, clock_before instant]
  | timedOut free pending last => rw [clock_left instant, clock_before instant]

/-! ## The end of a wait -/

/-- The attempt behind `made` others ends the wait as its check says, or nothing ends it and time is left. -/
theorem attempt_before (positive : 1 ≤ options.frequency) (instant : Instant check) (label : String)
    (world : World σ) {made : Nat} (early : made ≤ timeout ⌈/⌉ options.frequency) :
    (∃ ending after,
        attempt options timeout check ⟨made, made * options.frequency⟩ (before options.frequency check world made) =
            (.inl ending, after) ∧
          EndsAt options timeout label check world made (ending.result label) ending.phase after) ∨
      attempt options timeout check ⟨made, made * options.frequency⟩ (before options.frequency check world made) =
          (.inr ⟨made + 1, made * options.frequency⟩, left options.frequency check world made) ∧
        made < timeout ⌈/⌉ options.frequency ∧
        ∀ result phase after, ¬ EndsAt options timeout label check world made result phase after := by
  have still : advanced check ⟨made, made * options.frequency⟩ (before options.frequency check world made) =
      ⟨made + 1, made * options.frequency⟩ := by
    rw [advanced, instant, Nat.sub_self]
    rfl
  have cases := attempt_cases options timeout check ⟨made, made * options.frequency⟩
    (before options.frequency check world made)
  rw [still] at cases
  rcases cases with ⟨givenUp, ends⟩ | ⟨free, ⟨holds, ends⟩ | ⟨failure, fails, lasting, ends⟩ | ⟨pending, ends⟩⟩
  · exact .inl ⟨_, _, ends, .cancelled givenUp⟩
  · exact .inl ⟨_, _, ends, .satisfied free holds⟩
  · exact .inl ⟨_, _, ends, .failed free fails lasting⟩
  · by_cases spent : timeout ⌈/⌉ options.frequency ≤ made
    · rw [if_pos ((isSpent_iff positive made).mpr spent)] at ends
      exact .inl ⟨_, _, ends, .timedOut free pending (by omega)⟩
    · have unspent : ¬ isSpent timeout options.frequency ⟨made + 1, made * options.frequency⟩ = true :=
        fun filled => spent ((isSpent_iff positive made).mp filled)
      rw [if_neg unspent] at ends
      exact .inr ⟨ends, by omega, fun _ _ _ => not_endsAt free pending (by omega)⟩

/-- A wait ends at the first number of checks where something ends it. -/
theorem run_endsAt (positive : 1 ≤ options.frequency) (instant : Instant check) (label : String) (timeout : Nat)
    (world : World σ) :
    ∃ made ending after, made ≤ timeout ⌈/⌉ options.frequency ∧
      run options timeout check world = (ending, after) ∧
      EndsAt options timeout label check world made (ending.result label) ending.phase after ∧
      ∀ earlier < made, ∀ result phase after, ¬ EndsAt options timeout label check world earlier result phase after := by
  let motive (pausesLeft : Nat) (progress : Progress) (now : World σ) : Prop :=
    ∃ made, made + pausesLeft = timeout ⌈/⌉ options.frequency ∧ progress = ⟨made, made * options.frequency⟩ ∧
      now = before options.frequency check world made ∧
      ∀ earlier < made, ∀ result phase after, ¬ EndsAt options timeout label check world earlier result phase after
  have start : motive (pauses timeout options.frequency) {} world := by
    refine ⟨0, ?_, ?_, rfl, ?_⟩
    · rw [pauses_eq positive, Nat.zero_add]
    · rw [Nat.zero_mul]
    · intro earlier less
      omega
  have survives : Survives options timeout check motive := by
    rintro pausesLeft _ _ next after ⟨made, total, rfl, rfl, first⟩ undecided
    have early : made ≤ timeout ⌈/⌉ options.frequency := by omega
    rcases attempt_before positive instant label world early with ⟨ending, after', ends, _⟩ | ⟨goes, _, none⟩
    · rw [ends] at undecided
      cases undecided
    · rw [goes] at undecided
      cases undecided
      refine ⟨made + 1, by omega, ?_, ?_, ?_⟩
      · rw [step_eq positive, Nat.succ_mul]
      · rw [step_eq positive]
        rfl
      · intro earlier less
        rcases Nat.lt_succ_iff_lt_or_eq.mp less with before | rfl
        · exact first earlier before
        · exact none
  obtain ⟨pausesLeft, _, _, ending, after, ⟨made, total, rfl, rfl, first⟩, ends, whole⟩ := run_decided survives start
  have early : made ≤ timeout ⌈/⌉ options.frequency := by omega
  rcases attempt_before positive instant label world early with ⟨_, _, decided, here⟩ | ⟨goes, _⟩
  · cases ends.symm.trans decided
    exact ⟨made, ending, after, early, whole, here, first⟩
  · cases ends.symm.trans goes

/-- A wait makes its checks one after another, with a pause behind each that decides nothing and none behind the last,
and ends at the first number of checks where something ends it. Time runs out at the check behind
`timeout ⌈/⌉ frequency` others, so there are never more, and a wait that timed out made the attempts it owes and took
its time. -/
theorem wait_ends_at_first [Browser σ] (options : PollOptions) (label : String) (check : Action (World σ) Bool)
    (world : World σ) (positive : 1 ≤ options.frequency) (instant : Instant check) :
    let timeout := options.timeout.getD (Browser.currentTimeout world.browser)
    ∃ made result phase after, made ≤ timeout ⌈/⌉ options.frequency ∧
      EndsAt options timeout label check world made result phase after ∧
      (∀ earlier < made, ∀ result phase after,
        ¬ EndsAt options timeout label check world earlier result phase after) ∧
      (wait options label check).perform world = (result, after) ∧
      (run options timeout check world).1.phase = phase ∧
      after.clock = world.clock + made * options.frequency ∧
      (phase = .timedOut →
        minAttempts timeout options.frequency ≤ made + 1 ∧ timeout ≤ after.clock - world.clock) := by
  intro timeout
  obtain ⟨made, ending, after, bound, whole, here, first⟩ :=
    run_endsAt positive instant label timeout world
  have clock := here.clock_eq instant
  refine ⟨made, ending.result label, ending.phase, after, bound, here, first, ?_, by rw [whole], clock, ?_⟩
  · show ((run options timeout check world).1.result label, (run options timeout check world).2) = _
    rw [whole]
  · intro spent
    have filled := (isSpent_iff positive made).mpr (Nat.le_of_eq (here.phase_eq spent).symm)
    rw [isSpent, Bool.and_eq_true, decide_eq_true_eq, decide_eq_true_eq] at filled
    refine ⟨filled.1, ?_⟩
    rw [clock, Nat.add_sub_cancel_left]
    exact filled.2

end

/-! ## Any schedule -/

/-- A check that takes no time, with outcomes and states of the cancellation flag by the number of checks made. -/
def scheduled (frequency : Nat) (outcomes : Nat → Except Failure Bool) (flags : Nat → Bool) : Action (World σ) Bool :=
  .ofPerform fun world =>
    (outcomes (world.clock / frequency), { world with cancelled := flags (world.clock / frequency + 1) })

theorem instant_scheduled (frequency : Nat) (outcomes : Nat → Except Failure Bool) (flags : Nat → Bool) :
    Instant (scheduled frequency outcomes flags : Action (World σ) Bool) := fun _ => rfl

theorem before_scheduled {frequency : Nat} (positive : 1 ≤ frequency) (outcomes : Nat → Except Failure Bool)
    (flags : Nat → Bool) (browser : σ) (made : Nat) :
    before frequency (scheduled frequency outcomes flags) { browser, cancelled := flags 0 } made =
      { browser, clock := made * frequency, cancelled := flags made } := by
  induction made with
  | zero => rw [before, Nat.zero_mul]
  | succ made ih =>
    have number : made * frequency / frequency = made := Nat.mul_div_cancel made positive
    rw [before, ih, scheduled, Action.perform_ofPerform, number, World.later, Nat.succ_mul]

/-- Every sequence of outcomes under every schedule of the flag is that of some check. -/
theorem outcome_scheduled {frequency : Nat} (positive : 1 ≤ frequency) (outcomes : Nat → Except Failure Bool)
    (flags : Nat → Bool) (browser : σ) (made : Nat) :
    outcome frequency (scheduled frequency outcomes flags) { browser, cancelled := flags 0 } made = outcomes made := by
  rw [outcome, before_scheduled positive, scheduled, Action.perform_ofPerform, Nat.mul_div_cancel made positive]

/-- A wait of five milliseconds that looks every other one gives up behind the fourth look, be the second one stale. -/
theorem wait_ends_behind_time :
    let outcomes : Nat → Except Failure Bool :=
      fun made => if made = 1 then .error (.remote .staleElementReference "") else .ok false
    let check : Action (World PageModel) Bool := scheduled 2 outcomes fun _ => false
    let options : PollOptions := { timeout := some 5, frequency := 2 }
    1 ≤ options.frequency ∧ Instant check ∧
      ∃ after, (wait options "banner" check).perform { browser := {} } =
        (.ok { success := false, elapsed := 6, attempts := 4, waitedFor := "banner" }, after) := by
  intro outcomes check options
  have positive : 1 ≤ options.frequency := by decide
  have instant : Instant check := instant_scheduled 2 outcomes fun _ => false
  have follows : ∀ made, outcome options.frequency check { browser := {} } made = outcomes made :=
    outcome_scheduled positive outcomes (fun _ => false) ({} : PageModel)
  refine ⟨positive, instant, ?_⟩
  obtain ⟨made, result, phase, after, _, ends, _, waited, _⟩ :=
    wait_ends_at_first options "banner" check { browser := {} } positive instant
  rw [waited]
  cases ends with
  | cancelled givenUp => exact absurd givenUp.1 Bool.false_ne_true
  | satisfied _ holds =>
    rw [follows] at holds
    by_cases second : made = 1 <;> simp [outcomes, second] at holds
  | failed _ fails lasting =>
    rw [follows] at fails
    by_cases second : made = 1
    · simp only [outcomes, if_pos second, Except.error.injEq] at fails
      subst fails
      exact absurd lasting (by decide)
    · simp [outcomes, second] at fails
  | timedOut _ _ last =>
    have number : made = 3 := last.trans (Nat.ceilDiv_eq_add_pred_div 5 2)
    subst number
    exact ⟨_, rfl⟩

end Poll

end BrowserWait
