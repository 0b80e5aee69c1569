import BrowserWait.Page.Browser
import BrowserWait.Setup.Diagnostics

/-!
# Polling

A check is repeated, with a pause between two attempts, until it holds or the time is up. Transient failures count as
"not yet", any other failure ends the wait, and a raised cancellation flag ends it before the next attempt. Time is a
clock that pauses advance, so a wait whose checks take no time makes at most `timeout / frequency`, rounded up, plus
one attempts, and never pauses after the last of them.
-/

namespace BrowserWait

/-- What a wait happens in: a browser, a clock in milliseconds, and the caller's cancellation flag. -/
structure World (σ : Type) where
  browser : σ
  clock : Nat := 0
  cancelled : Bool := false

namespace World

variable {σ α : Type}

/-- A step on the browser. -/
def onBrowser (action : Action σ α) : Action (World σ) α :=
  Action.onPart browser (fun browser world => { world with browser }) action

/-- The world some time later. -/
def later (ms : Nat) (world : World σ) : World σ := { world with clock := world.clock + ms }

/-- Lets time pass. -/
def pause (ms : Nat) : Action (World σ) Unit := modify (later ms)

end World

/-- The pause between two attempts unless told otherwise, in milliseconds. -/
def defaultFrequency : Nat := 250

/-- The time of a wait unless told otherwise, in milliseconds. -/
def defaultTimeout : Nat := 16000

/-- How a wait polls. -/
structure PollOptions where
  /-- The time of a wait; without it the browser's own. -/
  timeout : Option Nat := none
  frequency : Nat := defaultFrequency
  diagnostics : Diagnostics := {}
  /-- Whether the cancellation flag is looked at. -/
  cancellable : Bool := false
deriving DecidableEq, Repr, Inhabited

/-- How a wait that was not broken off went. -/
structure WaitResult where
  success : Bool
  /-- The time spent, in milliseconds. -/
  elapsed : Nat
  attempts : Nat
  /-- The label of what was waited for. -/
  waitedFor : String
deriving DecidableEq, Repr

namespace Poll

/-- The time between two attempts. A frequency of 0 asks for no pause at all, which ends a wait only by a clock that
runs by itself. Here nothing but pauses moves the clock, so it is one step then; what is said of the length of waits
asks for at least 1. -/
def step (frequency : Nat) : Nat := max frequency 1

/-- The number of pauses that fill a wait's time. -/
def pauses (timeout frequency : Nat) : Nat := (timeout + step frequency - 1) / step frequency

/-- The attempts a wait makes before it may time out. -/
def minAttempts (timeout frequency : Nat) : Nat := max (pauses timeout frequency) 1

/-- The life of a wait. -/
inductive Phase where
  | idle
  | polling
  | satisfied
  | timedOut
deriving DecidableEq, Repr

/-- How far a wait has come. -/
structure Progress where
  attempts : Nat := 0
  elapsed : Nat := 0
deriving DecidableEq, Repr

/-- How a wait ends. -/
inductive Ending where
  | satisfied (progress : Progress)
  | timedOut (progress : Progress)
  | aborted (failure : Failure)
deriving DecidableEq, Repr

namespace Ending

/-- The phase an ending leaves a wait in; one that was broken off is as if it had not begun. -/
def phase : Ending → Phase
  | satisfied _ => .satisfied
  | timedOut _ => .timedOut
  | aborted _ => .idle

/-- The result of a wait under its label. -/
def result (label : String) : Ending → Except Failure WaitResult
  | satisfied progress => .ok ⟨true, progress.elapsed, progress.attempts, label⟩
  | timedOut progress => .ok ⟨false, progress.elapsed, progress.attempts, label⟩
  | aborted failure => .error failure

end Ending

/-- What an attempt decides, if it decides anything. -/
def decision? (progress : Progress) : Except Failure Bool → Option Ending
  | .ok true => some (.satisfied progress)
  | .ok false => none
  | .error failure => if failure.isTransient then none else some (.aborted failure)

/-- Whether enough attempts were made and enough time has passed. -/
def isSpent (timeout frequency : Nat) (progress : Progress) : Bool :=
  minAttempts timeout frequency ≤ progress.attempts && timeout ≤ progress.elapsed

section

variable {σ : Type} (options : PollOptions) (timeout : Nat) (check : Action (World σ) Bool)

/-- One attempt: its ending or the progress made, and the world it leaves. A raised flag comes before the check. -/
def attempt (progress : Progress) (world : World σ) : (Ending ⊕ Progress) × World σ :=
  if options.cancellable && world.cancelled then (.inl (.aborted .interrupted), world)
  else
    let (outcome, after) := check.perform world
    let progress : Progress := ⟨progress.attempts + 1, progress.elapsed + (after.clock - world.clock)⟩
    match decision? progress outcome with
    | some ending => (.inl ending, after)
    | none =>
      (if isSpent timeout options.frequency progress then .inl (.timedOut progress) else .inr progress, after)

/-- Attempts with a pause between two of them, as long as there are pauses left; a wait that has all that fill its time
ends before it is out of them. -/
def attempts : (pausesLeft : Nat) → Progress → World σ → Ending × World σ
  | pausesLeft, progress, world =>
    match attempt options timeout check progress world with
    | (.inl ending, world) => (ending, world)
    | (.inr progress, world) =>
      match pausesLeft with
      | 0 => (.timedOut progress, world)
      | pausesLeft + 1 =>
        let pause := step options.frequency
        attempts pausesLeft ⟨progress.attempts, progress.elapsed + pause⟩ (world.later pause)

/-- A whole wait: how it ends, and the world it leaves. -/
def run (world : World σ) : Ending × World σ :=
  attempts options timeout check (pauses timeout options.frequency) {} world

end

/-- The time of a wait in a browser. -/
def effectiveTimeout {σ : Type} [Browser σ] (options : PollOptions) (world : World σ) : Nat :=
  options.timeout.getD (Browser.currentTimeout world.browser)

/-- Repeats a check until it holds or the time is up. -/
def wait {σ : Type} [Browser σ] (options : PollOptions) (label : String) (check : Action (World σ) Bool) :
    Action (World σ) WaitResult :=
  Action.ofPerform fun world =>
    let (ending, after) := run options (effectiveTimeout options world) check world
    (ending.result label, after)

end Poll

end BrowserWait
