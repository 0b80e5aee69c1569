import BrowserWait.Session.Timeout
import Mathlib.Tactic.Common

/-!
# Steps under a timeout of their own

What a step under a timeout comes to: the step alone where no other timeout is asked for, and else the setting of the
timeout, the step, and the former timeout put back unless the caller gave up.
-/

namespace BrowserWait.TimedSession

open Action

variable {σ α : Type} [TimedSession σ] {state between : σ} {step : Action σ α}

/-- No other timeout than the one in force is asked for. -/
theorem withTimeout_same {timeout : Option Nat} (same : timeout = none ∨ timeout = sessionTimeout state) :
    (withTimeout timeout step).perform state = step.perform state := by
  have kept : timeout.filter (fun ms => some ms != sessionTimeout state) = none := by
    rcases same with rfl | rfl
    · rfl
    · exact Option.filter_eq_none_iff.mpr fun ms set => by simp [set]
  rw [withTimeout, perform_bind, perform_get]
  dsimp only
  rw [kept]

theorem withTimeout_other {ms : Nat} (differs : sessionTimeout state ≠ some ms) :
    (withTimeout (some ms) step).perform state =
      (setTimeout ms >>= fun _ => thenRestore (sessionTimeout state) step).perform state := by
  have other : (some ms).filter (fun ms => some ms != sessionTimeout state) = some ms :=
    Option.filter_some_pos (bne_iff_ne.mpr differs.symm)
  rw [withTimeout, perform_bind, perform_get]
  dsimp only
  rw [other]

/-- Where the caller gave up nothing is put back. -/
theorem thenRestore_fatal (former : Option Nat) {failure : Failure}
    (performed : step.perform state = (.error failure, between)) (fatal : failure.isFatal = true) :
    (thenRestore former step).perform state = (.error failure, between) := by
  rw [thenRestore, perform_ofPerform, performed]
  exact if_pos fatal

/-- Where no timeout was set before nothing is put back. -/
theorem thenRestore_none {outcome : Except Failure α} (performed : step.perform state = (outcome, between)) :
    (thenRestore none step).perform state = (outcome, between) := by
  rw [thenRestore, perform_ofPerform, performed]
  cases outcome with
  | ok value => rfl
  | error failure => exact ite_self _

theorem thenRestore_ok (former : Nat) {value : α} (performed : step.perform state = (.ok value, between)) :
    (thenRestore (some former) step).perform state =
      match (setTimeout former : Action σ Unit).perform between with
      | (.ok _, after) => (.ok value, after)
      | (.error failure, after) => (.error failure, after) := by
  rw [thenRestore, perform_ofPerform, performed]
  rfl

theorem thenRestore_error (former : Nat) {failure : Failure}
    (performed : step.perform state = (.error failure, between)) (lasting : failure.isFatal = false) :
    (thenRestore (some former) step).perform state =
      match (setTimeout former : Action σ Unit).perform between with
      | (.ok _, after) => (.error failure, after)
      | (.error later, after) => (.error (if later.isFatal then later else failure), after) := by
  rw [thenRestore, perform_ofPerform, performed]
  dsimp only
  rw [lasting, if_neg Bool.false_ne_true, restore]
  rcases (setTimeout former : Action σ Unit).perform between with ⟨put, after⟩
  cases put with
  | ok _ => rfl
  | error later => rfl

end BrowserWait.TimedSession
