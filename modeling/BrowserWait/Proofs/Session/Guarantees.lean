import BrowserWait.Proofs.SeleniumRc.Operation
import BrowserWait.Proofs.WebDriver.Operation

/-!
# What sessions guarantee

The guarantees of the clients of both protocols, over everything that can be done with a browser and whatever the server
answers: the client's timeout is the one in force on the server, its session is the current one, and without a session
nothing is sent but the request for one.
-/

namespace BrowserWait

open Action SessionClient

/-- Without a session, operations that begin none send nothing, and those that need one are refused. -/
def IdleWithoutSession {σ ω : Type} [SessionClient σ] (step : ω → Action (World σ) Unit) (begins needs : ω → Bool)
    (world : World σ) : Prop :=
  session world.browser = none → ∀ operation,
    (begins operation = false → ((step operation).perform world).2.browser = world.browser) ∧
      (needs operation = true → Refuses world (step operation))

/-- Whatever is done with a browser, the timeout its client takes for the one in force is the last one that the server
acknowledged in the current session. -/
theorem timeout_kept_by_operations :
    (∀ {τ : Type} [Server τ] (server : τ) (hub : String) (capabilities : List (String × Json)) (defaultTimeout : Nat)
      (settings : WebDriver.Settings) (operations : List (WebDriver.Operation (Recorded τ))),
        TimeoutKept (through (WebDriver.Operation.step settings) operations
          { browser := WebDriver.Client.unstarted server hub capabilities defaultTimeout }).browser) ∧
    (∀ {τ : Type} [Server τ] (server : τ) (driver browser browserUrl launchOptions : String) (defaultTimeout : Nat)
      (settings : SeleniumRc.Settings) (operations : List SeleniumRc.Operation),
        TimeoutKept (through (SeleniumRc.Operation.step settings) operations
          { browser := SeleniumRc.Client.unstarted server driver browser browserUrl launchOptions
              defaultTimeout }).browser) := by
  constructor
  · intro τ _ server hub capabilities defaultTimeout settings operations
    have start := WebDriver.tracking_unstarted server hub capabilities defaultTimeout
    exact timeoutKept (WebDriver.tracking_through settings operations start)
  · intro τ _ server driver browser browserUrl launchOptions defaultTimeout settings operations
    have start := SeleniumRc.tracking_unstarted server driver browser browserUrl launchOptions defaultTimeout
    exact timeoutKept (SeleniumRc.tracking_through settings operations start)

/-- Whatever is done with a browser, each request but those for a new session went to the session that was current at
its time, and without a session there is no such request. -/
theorem session_kept_by_operations :
    (∀ {τ : Type} [Server τ] (server : τ) (hub : String) (capabilities : List (String × Json)) (defaultTimeout : Nat)
      (settings : WebDriver.Settings) (operations : List (WebDriver.Operation (Recorded τ))),
        let world := through (WebDriver.Operation.step settings) operations
          { browser := WebDriver.Client.unstarted server hub capabilities defaultTimeout }
        SessionKept world.browser ∧ IdleWithoutSession (WebDriver.Operation.step settings)
          WebDriver.Operation.begins WebDriver.Operation.needsSession world) ∧
    (∀ {τ : Type} [Server τ] (server : τ) (driver browser browserUrl launchOptions : String) (defaultTimeout : Nat)
      (settings : SeleniumRc.Settings) (operations : List SeleniumRc.Operation),
        let world := through (SeleniumRc.Operation.step settings) operations
          { browser := SeleniumRc.Client.unstarted server driver browser browserUrl launchOptions defaultTimeout }
        SessionKept world.browser ∧ IdleWithoutSession (SeleniumRc.Operation.step settings)
          SeleniumRc.Operation.begins SeleniumRc.Operation.needsSession world) := by
  constructor
  · intro τ _ server hub capabilities defaultTimeout settings operations world
    have start := WebDriver.tracking_unstarted server hub capabilities defaultTimeout
    have tracking : Tracking world.browser := WebDriver.tracking_through settings operations start
    refine ⟨sessionKept tracking, fun sessionless operation => ?_⟩
    have idle := WebDriver.idle_of_tracking tracking sessionless
    exact ⟨WebDriver.Operation.browser_step idle settings, WebDriver.Operation.refuses_step idle settings⟩
  · intro τ _ server driver browser browserUrl launchOptions defaultTimeout settings operations world
    have start := SeleniumRc.tracking_unstarted server driver browser browserUrl launchOptions defaultTimeout
    have tracking : Tracking world.browser := SeleniumRc.tracking_through settings operations start
    refine ⟨sessionKept tracking, fun sessionless operation => ?_⟩
    have idle := SeleniumRc.idle_of_tracking tracking sessionless
    exact ⟨SeleniumRc.Operation.browser_step idle settings, SeleniumRc.Operation.refuses_step idle settings⟩

end BrowserWait
