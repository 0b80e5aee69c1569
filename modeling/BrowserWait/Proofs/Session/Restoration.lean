import BrowserWait.Proofs.Session.Nesting

/-!
# Timeouts put back

What is left of a timeout of its own when the step under it succeeds, in a session that grants every timeout. The
former timeout is in force again whatever the step did, as long as there was one and another one was asked for
(`timeout_put_back`). Nothing is put back in a session that had none, and nothing where the timeout asked for was in
force already.
-/

namespace BrowserWait

open Action TimedSession

/-- Every timeout can be set, and is in force then. -/
def Grants (σ : Type) [TimedSession σ] : Prop :=
  ∀ ms (state : σ), ∃ after, (setTimeout ms : Action σ Unit).perform state = (.ok (), after) ∧
    sessionTimeout after = some ms

section

variable {σ α : Type} [TimedSession σ] {state after : σ} {step : Action σ α} {value : α} {ms : Nat}

theorem Grants.records (grants : Grants σ) : Records σ := by
  intro ms state after performed
  obtain ⟨granted, performed', inForce⟩ := grants ms state
  cases performed.symm.trans performed'
  exact inForce

/-- A step that succeeds under a timeout of its own was made under that timeout, and then the former one was put back
if there was one; or that timeout was in force already, and the step was made alone. -/
theorem succeeded_cases (ended : (withTimeout (some ms) step).perform state = (.ok value, after)) :
    (sessionTimeout state = some ms ∧ step.perform state = (.ok value, after)) ∨
      ∃ begun, (setTimeout ms : Action σ Unit).perform state = (.ok (), begun) ∧
        ((sessionTimeout state = none ∧ step.perform begun = (.ok value, after)) ∨
          ∃ former between, sessionTimeout state = some former ∧ former ≠ ms ∧
            step.perform begun = (.ok value, between) ∧
            (setTimeout former : Action σ Unit).perform between = (.ok (), after)) := by
  obtain ⟨outcome, left, happened, course⟩ := exists_underTimeout (some ms) step (fun _ => []) state
  have same := course.perform.symm.trans ended
  cases course with
  | plain same' made =>
    cases same
    rcases same' with none | inForce
    · cases none
    · exact .inl ⟨inForce.symm, made⟩
  | refused asked differs set => cases same
  | interrupted asked differs set made => cases same
  | unrestored asked unset set made =>
    cases same
    cases asked
    exact .inr ⟨_, set, .inl ⟨unset, made⟩⟩
  | failed asked had differs set made lasting restored => cases same
  | @succeeded ms' former begun between after' value' put asked had differs set made restored =>
    cases asked
    cases put with
    | error failure => cases same
    | ok _ =>
      cases same
      exact .inr ⟨_, set, .inr ⟨_, _, had, differs, made, restored⟩⟩

/-- In a session that grants every timeout, a step that succeeds under a timeout of its own leaves the former timeout in
force, whatever it did to it; where it asked for the very timeout in force, this takes that the step itself leaves
it. Where no timeout was ever set there is none to put back: the step was made under its own, and what it left
stays. -/
theorem timeout_put_back (grants : Grants σ)
    (ended : (withTimeout (some ms) step).perform state = (.ok value, after)) :
    (∀ former, sessionTimeout state = some former →
        (former = ms → sessionTimeout (step.perform state).2 = sessionTimeout state) →
        sessionTimeout after = sessionTimeout state) ∧
      (sessionTimeout state = none →
        ∃ begun, (setTimeout ms : Action σ Unit).perform state = (.ok (), begun) ∧ sessionTimeout begun = some ms ∧
          step.perform begun = (.ok value, after)) := by
  rcases succeeded_cases ended with
    ⟨inForce, made⟩ | ⟨begun, set, ⟨unset, made⟩ | ⟨former, between, had, differs, _, restored⟩⟩
  · constructor
    · intro former had leaves
      have left := leaves (Option.some.inj (had.symm.trans inForce))
      rw [made] at left
      exact left
    · intro unset
      cases unset.symm.trans inForce
  · constructor
    · intro former had _
      cases unset.symm.trans had
    · intro _
      exact ⟨begun, set, grants.records ms state begun set, made⟩
  · constructor
    · intro _ _ _
      rw [had]
      exact grants.records former between after restored
    · intro unset
      cases unset.symm.trans had

end

theorem grants_granting : Grants Granting := fun ms _ => ⟨⟨some ms⟩, rfl, rfl⟩

/-- A step that sets a timeout while it runs under another one does not keep it. -/
theorem timeout_put_back_behind_set :
    let step : Action Granting Unit := setTimeout 900
    let after := ((withTimeout (some 500) step).perform ⟨some 100⟩).2
    Grants Granting ∧ (withTimeout (some 500) step).perform ⟨some 100⟩ = (.ok (), after) ∧
      sessionTimeout after = some 100 := by
  intro step after
  have ended : (withTimeout (some 500) step).perform ⟨some 100⟩ = (.ok (), after) := rfl
  exact ⟨grants_granting, ended, (timeout_put_back grants_granting ended).1 100 rfl fun same => absurd same (by decide)⟩

/-- A timeout stays behind in a session that never had one, and a step under the timeout in force keeps the one it
sets. -/
theorem timeout_stays :
    Grants Granting ∧
      (∃ after, (withTimeout (some 5) (pure ()) : Action Granting Unit).perform ⟨none⟩ = (.ok (), after) ∧
        sessionTimeout after ≠ sessionTimeout (⟨none⟩ : Granting)) ∧
      (∃ after, (withTimeout (some 5) (setTimeout 9) : Action Granting Unit).perform ⟨some 5⟩ = (.ok (), after) ∧
        sessionTimeout after ≠ sessionTimeout (⟨some 5⟩ : Granting)) := by
  refine ⟨grants_granting, ⟨⟨some 5⟩, rfl, ?_⟩, ⟨⟨some 9⟩, rfl, ?_⟩⟩
  · exact Option.some_ne_none 5
  · exact fun same => absurd (Option.some.inj same) (by decide)

end BrowserWait
