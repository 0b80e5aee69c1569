import BrowserWait.Page.Browser

/-!
# Session timeouts

A session whose server-side timeout can be changed, and the running of a step under a timeout of its own. The former
timeout is put back afterwards; a caller who gives up is not kept waiting for that.
-/

namespace BrowserWait

/-- A session with a timeout. -/
class TimedSession (σ : Type) where
  /-- The timeout in force, if one was ever set. -/
  sessionTimeout : σ → Option Nat
  /-- Puts a timeout in force. -/
  setTimeout : (ms : Nat) → Action σ Unit

namespace TimedSession

variable {σ α : Type} [TimedSession σ]

/-- Puts the former timeout back, if there was one. -/
def restore (former : Option Nat) : Action σ Unit :=
  match former with
  | some ms => setTimeout ms
  | none => pure ()

/-- Runs a step and puts the former timeout back. When the step fails its failure is the outcome, but giving up
overtakes it; when the caller gave up in the step, nothing is put back. -/
def thenRestore (former : Option Nat) (step : Action σ α) : Action σ α :=
  .ofPerform fun session =>
    match step.perform session with
    | (.ok value, session) =>
      match (restore former).perform session with
      | (.ok _, session) => (.ok value, session)
      | (.error failure, session) => (.error failure, session)
    | (.error failure, session) =>
      if failure.isFatal then (.error failure, session)
      else
        match (restore former).perform session with
        | (.error later, session) => (.error (if later.isFatal then later else failure), session)
        | (.ok _, session) => (.error failure, session)

/-- Runs a step under a timeout, which is put in force only when it is given and is not in force already. -/
def withTimeout (timeout : Option Nat) (step : Action σ α) : Action σ α := do
  let former := sessionTimeout (← get)
  match timeout.filter (some · != former) with
  | none => step
  | some ms =>
    setTimeout ms
    thenRestore former step

end TimedSession

end BrowserWait
