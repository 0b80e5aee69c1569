import BrowserWait.Proofs.Poll.Schedule
import BrowserWait.Proofs.Wait.Building

/-!
# Late elements

How long a wait for several elements takes when each appears only from a certain lookup on. An element is looked up only
in the ticks in which all elements in front of it were found, so every element holds up those behind it by the lookups
that miss it. One tick raises the counters as `Counted` says (`perform_scan`), and the wait is over in the first tick
that comes behind all delays, if there is time (`late_elements_found`).
-/

namespace BrowserWait

open Action

/-! ## Lookups on a page -/

namespace PageModel

/-- The page behind a lookup. -/
def looked (key : String) (page : PageModel) : PageModel :=
  { page.remember ("find_element:" ++ key) with lookups := page.lookups.set key (page.lookupCount key + 1) }

@[simp] theorem lookupCount_looked (key : String) (page : PageModel) :
    (page.looked key).lookupCount key = page.lookupCount key + 1 := by
  rw [lookupCount, looked, Table.get?_set_self]
  rfl

theorem lookupCount_looked_of_ne {key other : String} (differ : other ≠ key) (page : PageModel) :
    (page.looked key).lookupCount other = page.lookupCount other := by
  rw [lookupCount, looked, Table.get?_set_of_ne _ _ differ]
  rfl

/-- Pages that differ in their records only. -/
def Alike (page now : PageModel) : Prop := ∃ lookups calls, now = { page with lookups, calls }

theorem Alike.refl (page : PageModel) : Alike page page := ⟨page.lookups, page.calls, rfl⟩

theorem Alike.looked {page now : PageModel} (alike : Alike page now) (key : String) : Alike page (now.looked key) := by
  obtain ⟨lookups, calls, rfl⟩ := alike
  exact ⟨_, _, rfl⟩

theorem Alike.isPresent_eq {page now : PageModel} (alike : Alike page now) : now.isPresent = page.isPresent := by
  obtain ⟨lookups, calls, rfl⟩ := alike
  rfl

theorem Alike.lookupFailures_eq {page now : PageModel} (alike : Alike page now) :
    now.lookupFailures = page.lookupFailures := by
  obtain ⟨lookups, calls, rfl⟩ := alike
  rfl

end PageModel

open PageModel (Alike)

/-- A lookup that does not fail otherwise finds the element if it is there. -/
theorem PageModel.findElement_eq {locator : Locator} {page : PageModel}
    (sound : page.lookupFailures.get? locator.text = none) :
    PageModel.findElement locator page =
      if page.isPresent locator.text (page.lookupCount locator.text + 1) then
        (.ok ⟨locator.text⟩, page.looked locator.text)
      else
        (.error (.ofAnswer .noSuchElement (some ("no element matches " ++ locator.text))),
          page.looked locator.text) := by
  have kept : (page.remember ("find_element:" ++ locator.text)).lookupFailures.get? locator.text = none := sound
  rw [PageModel.findElement]
  dsimp only
  rw [kept]
  rfl

/-- Where no lookup fails otherwise, the clause for an element tells whether it is there. -/
theorem Clause.perform_elementPresent {locator : Locator} {page : PageModel}
    (sound : page.lookupFailures.get? locator.text = none) :
    (Clause.elementPresent locator : Clause PageModel).evaluate.perform page =
      (.ok (page.isPresent locator.text (page.lookupCount locator.text + 1)), page.looked locator.text) := by
  have performed : (Browser.findElement locator : Action PageModel ElementId).perform page =
      PageModel.findElement locator page := rfl
  rw [evaluate, Clause.present, perform_mapOutcome, perform_bind, performed, PageModel.findElement_eq sound]
  cases page.isPresent locator.text (page.lookupCount locator.text + 1) with
  | true => rfl
  | false => rfl

/-! ## Elements that appear late -/

/-- An element, with the number of the lookup that finds it first. -/
structure LateElement where
  finder : Finder
  lookup : Nat

namespace LateElement

/-- The text under which the element is looked up. -/
def key (element : LateElement) : String := element.finder.locator.text

/-- The lookups that miss it. -/
def delay (element : LateElement) : Nat := element.lookup - 1

/-- The clause that waits for it. -/
def clause (element : LateElement) : Clause PageModel := .elementPresent element.finder.locator

/-- The call that adds the clause. -/
def call (element : LateElement) : NativeCall PageModel := .directive (.elementPresent element.finder)

/-- From now on lookups on a page find the element from that number on and not before, and do not fail otherwise. -/
structure On (page : PageModel) (element : LateElement) : Prop where
  found : ∀ lookup, 1 ≤ lookup →
    (page.isPresent element.key (page.lookupCount element.key + lookup) = true ↔ element.lookup ≤ lookup)
  sound : page.lookupFailures.get? element.key = none

/-- The delays of elements together. -/
def delays (elements : List LateElement) : Nat := (elements.map delay).sum

theorem delays_cons (element : LateElement) (more : List LateElement) :
    delays (element :: more) = element.delay + delays more := by
  rw [delays, List.map_cons, List.sum_cons]
  rfl

/-- What a page says about a text that was not looked up yet. -/
theorem on_of_appearFrom {page : PageModel} {element : LateElement} (fresh : page.lookupCount element.key = 0)
    (missing : page.elements.contains element.key = false)
    (appears : page.appearFrom.get? element.key = some element.lookup)
    (sound : page.lookupFailures.get? element.key = none) : element.On page := by
  refine ⟨fun lookup _ => ?_, sound⟩
  rw [fresh, Nat.zero_add, PageModel.isPresent, missing, appears, Bool.false_or, Option.any_some, decide_eq_true_eq]

/-! ## One tick -/

/-- The lookups behind so many ticks, for elements that those in front of them hold up for some. -/
def Counted (page now : PageModel) (ticks : Nat) : (held : Nat) → List LateElement → Prop
  | _, [] => True
  | held, element :: more =>
    now.lookupCount element.key = page.lookupCount element.key + (ticks - held) ∧
      Counted page now ticks (held + element.delay) more

section

variable {page now : PageModel} {ticks held : Nat} {elements : List LateElement}

theorem counted_zero (page : PageModel) (held : Nat) (elements : List LateElement) :
    Counted page page 0 held elements := by
  induction elements generalizing held with
  | nil => trivial
  | cons element more ih => exact ⟨by rw [Nat.zero_sub, Nat.add_zero], ih _⟩

/-- A lookup of another element changes nothing. -/
theorem Counted.looked {other : String} (counted : Counted page now ticks held elements)
    (absent : other ∉ elements.map key) : Counted page (now.looked other) ticks held elements := by
  induction elements generalizing held with
  | nil => trivial
  | cons element more ih =>
    rw [List.map_cons, List.mem_cons, not_or] at absent
    refine ⟨?_, ih counted.2 absent.2⟩
    rw [PageModel.lookupCount_looked_of_ne (Ne.symm absent.1)]
    exact counted.1

/-- A tick that does not reach the elements counts for nothing. -/
theorem Counted.held_up (counted : Counted page now ticks held elements) (early : ticks < held) :
    Counted page now (ticks + 1) held elements := by
  induction elements generalizing held with
  | nil => trivial
  | cons element more ih =>
    refine ⟨?_, ih counted.2 (by omega)⟩
    rw [counted.1]
    omega

/-- Every element is looked up in the ticks behind the delays in front of it. -/
theorem Counted.lookupCount_eq (counted : Counted page now ticks held elements) {front back : List LateElement}
    {element : LateElement} (split : elements = front ++ element :: back) :
    now.lookupCount element.key = page.lookupCount element.key + (ticks - (held + delays front)) := by
  induction front generalizing held elements with
  | nil =>
    subst split
    exact counted.1
  | cons first front ih =>
    subst split
    rw [ih counted.2 rfl, delays_cons, Nat.add_assoc]

/-- What waits for elements: a chain of their clauses. -/
def chain (elements : List LateElement) : Chain (Clause PageModel) := elements.map fun element => (.and, element.clause)

theorem scan_chain_false (elements : List LateElement) :
    Chain.scan Clause.evaluate false (chain elements) = pure false := by
  induction elements with
  | nil => rfl
  | cons element more ih =>
    rw [chain, List.map_cons, Chain.scan]
    exact (if_neg Bool.false_ne_true).trans ih

theorem perform_scan_chain_cons (element : LateElement) (more : List LateElement) (now : PageModel) :
    (Chain.scan Clause.evaluate true (chain (element :: more))).perform now =
      (element.clause.evaluate >>= fun value => Chain.scan Clause.evaluate value (chain more)).perform now := by
  rw [chain, List.map_cons, Chain.scan]
  exact congrArg (Action.perform · now) (if_pos rfl)

/-- The lookup of an element in a tick that reaches it. -/
theorem On.perform_clause {element : LateElement} (late : element.On page) (alike : Alike page now)
    (count : now.lookupCount element.key = page.lookupCount element.key + (ticks - held)) (reached : held ≤ ticks) :
    element.clause.evaluate.perform now = (.ok (decide (held + element.delay ≤ ticks)), now.looked element.key) := by
  have sound : now.lookupFailures.get? element.key = none := by
    rw [alike.lookupFailures_eq]
    exact late.sound
  have number : now.lookupCount element.key + 1 = page.lookupCount element.key + (ticks + 1 - held) := by omega
  have present : now.isPresent element.key (now.lookupCount element.key + 1) =
      decide (held + element.delay ≤ ticks) := by
    rw [Bool.eq_iff_iff, alike.isPresent_eq, number, late.found _ (by omega), decide_eq_true_eq, delay]
    omega
  rw [← present]
  exact Clause.perform_elementPresent sound

/-- A tick looks up the elements as far as they are found, and holds when its number is behind all delays. -/
theorem perform_scan (different : (elements.map key).Nodup) (late : ∀ element ∈ elements, element.On page)
    (alike : Alike page now) (counted : Counted page now ticks held elements) (reached : held ≤ ticks) :
    ∃ after, (Chain.scan Clause.evaluate true (chain elements)).perform now =
        (.ok (decide (held + delays elements ≤ ticks)), after) ∧
      Alike page after ∧ Counted page after (ticks + 1) held elements ∧
      ∀ other, other ∉ elements.map key → after.lookupCount other = now.lookupCount other := by
  induction elements generalizing now held with
  | nil =>
    refine ⟨now, ?_, alike, trivial, fun _ _ => rfl⟩
    rw [decide_eq_true (show held + delays [] ≤ ticks from reached)]
    rfl
  | cons element more ih =>
    rw [List.map_cons, List.nodup_cons] at different
    rw [List.forall_mem_cons] at late
    obtain ⟨count, behind⟩ := counted
    have here : (now.looked element.key).lookupCount element.key =
        page.lookupCount element.key + (ticks + 1 - held) := by
      rw [PageModel.lookupCount_looked]
      omega
    have kept := behind.looked different.1
    rw [perform_scan_chain_cons, perform_bind, late.1.perform_clause alike count reached, delays_cons, ← Nat.add_assoc]
    -- an element that is found hands the tick on to those behind it, a missing one is the last that is looked up
    by_cases found : held + element.delay ≤ ticks
    · obtain ⟨after, scanned, alike', counted', others⟩ := ih different.2 late.2 (alike.looked element.key) kept found
      refine ⟨after, ?_, alike', ⟨(others element.key different.1).trans here, counted'⟩, fun other absent => ?_⟩
      · rw [decide_eq_true found]
        exact scanned
      · rw [List.map_cons, List.mem_cons, not_or] at absent
        rw [others other absent.2, PageModel.lookupCount_looked_of_ne absent.1]
    · have early : ticks < held + element.delay := by omega
      refine ⟨now.looked element.key, ?_, alike.looked element.key, ⟨here, kept.held_up early⟩, fun other absent => ?_⟩
      · rw [decide_eq_false found, decide_eq_false (show ¬ held + element.delay + delays more ≤ ticks by omega)]
        dsimp only
        rw [scan_chain_false]
        rfl
      · rw [List.map_cons, List.mem_cons, not_or] at absent
        exact PageModel.lookupCount_looked_of_ne absent.1 now

end

/-! ## All ticks -/

theorem ofSteps_clauses (flavor : AjaxFlavor) (elements : List LateElement) :
    Chain.ofSteps ((elements.map call).map (NativeCall.clause? flavor)) = chain elements := by
  have behind : ∀ elements : List LateElement,
      Chain.ofStepsBehind .and ((elements.map call).map (NativeCall.clause? flavor)) = chain elements := by
    intro elements
    induction elements with
    | nil => rfl
    | cons element more ih => exact congrArg ((.and, element.clause) :: ·) ih
  cases elements with
  | nil => rfl
  | cons element more => exact congrArg ((.and, element.clause) :: ·) (behind more)

/-- The look of a wait for elements. -/
def look (elements : List LateElement) : Action (World PageModel) Bool :=
  World.onBrowser (Chain.scan Clause.evaluate true (chain elements))

/-- What holds behind so many ticks: the page is as it was but for its records, and the lookups are counted. -/
structure Reached (elements : List LateElement) (world now : World PageModel) (ticks : Nat) : Prop where
  alike : Alike world.browser now.browser
  counted : Counted world.browser now.browser ticks 0 elements
  cancelled : now.cancelled = world.cancelled

section

variable {elements : List LateElement} {world now : World PageModel} {ticks : Nat}

theorem Reached.start : Reached elements world world 0 := ⟨.refl _, counted_zero _ _ _, rfl⟩

theorem Reached.later (reached : Reached elements world now ticks) (ms : Nat) :
    Reached elements world (now.later ms) ticks :=
  ⟨reached.alike, reached.counted, reached.cancelled⟩

theorem Reached.look (reached : Reached elements world now ticks) (different : (elements.map key).Nodup)
    (late : ∀ element ∈ elements, element.On world.browser) :
    ((look elements).perform now).1 = .ok (decide (delays elements ≤ ticks)) ∧
      Reached elements world ((look elements).perform now).2 (ticks + 1) := by
  obtain ⟨after, scanned, alike, counted, _⟩ :=
    perform_scan different late reached.alike reached.counted (Nat.zero_le ticks)
  rw [Nat.zero_add] at scanned
  rw [LateElement.look, World.onBrowser, perform_onPart, scanned]
  exact ⟨rfl, alike, counted, reached.cancelled⟩

/-- The tick behind `made` others finds the elements if it is behind all delays. -/
theorem reached_before (different : (elements.map key).Nodup)
    (late : ∀ element ∈ elements, element.On world.browser) (frequency made : Nat) :
    Reached elements world (Poll.before frequency (look elements) world made) made := by
  induction made with
  | zero => exact .start
  | succ made ih => exact (ih.look different late).2.later frequency

/-- A wait ends in the tick behind all delays, if it gets there before its time is up. -/
theorem run_look (different : (elements.map key).Nodup) (late : ∀ element ∈ elements, element.On world.browser)
    (options : PollOptions) (positive : 1 ≤ options.frequency) (free : ¬ Poll.GivenUp options world)
    (label : String) (timeout : Nat) :
    let last := min (delays elements) (timeout ⌈/⌉ options.frequency)
    ∃ ending after, Poll.run options timeout (look elements) world = (ending, after) ∧
      ending.result label =
        .ok ⟨decide (delays elements ≤ timeout ⌈/⌉ options.frequency), last * options.frequency, last + 1, label⟩ ∧
      Reached elements world after (last + 1) := by
  intro last
  have looks (made : Nat) := (reached_before different late options.frequency made).look different late
  have outcome (made : Nat) :
      Poll.outcome options.frequency (look elements) world made = .ok (decide (delays elements ≤ made)) :=
    (looks made).1
  have uncancelled (made : Nat) :
      ¬ Poll.GivenUp options (Poll.before options.frequency (look elements) world made) := by
    rw [Poll.GivenUp, (reached_before different late options.frequency made).cancelled]
    exact free
  have instant : Poll.Instant (look elements) := fun _ => rfl
  obtain ⟨made, ending, after, bound, whole, ends, first⟩ := Poll.run_endsAt positive instant label timeout world
  refine ⟨ending, after, whole, ?_⟩
  -- a tick behind all delays would have ended the wait, so none is in front of the last
  have early (earlier : Nat) (less : earlier < made) : ¬ delays elements ≤ earlier := by
    intro behind
    have holds := outcome earlier
    rw [decide_eq_true behind] at holds
    exact first earlier less _ _ _ (.satisfied (uncancelled earlier) holds)
  generalize ending.result label = result at ends ⊢
  generalize ending.phase = phase at ends
  cases ends with
  | cancelled givenUp => exact absurd givenUp (uncancelled made)
  | satisfied _ holds =>
    rw [outcome, Except.ok.injEq, decide_eq_true_eq] at holds
    have number : made = delays elements := by
      by_contra other
      exact early (delays elements) (by omega) (Nat.le_refl _)
    subst number
    have here : last = delays elements := Nat.min_eq_left bound
    rw [here, decide_eq_true bound]
    exact ⟨rfl, (looks _).2⟩
  | failed _ fails lasting =>
    rw [outcome] at fails
    cases fails
  | timedOut _ pending spent =>
    rw [outcome] at pending
    have missing : ¬ delays elements ≤ made := of_decide_eq_false pending
    subst spent
    have here : last = timeout ⌈/⌉ options.frequency := Nat.min_eq_right (by omega)
    rw [here, decide_eq_false missing]
    exact ⟨rfl, (looks _).2⟩

end

/-- A wait for elements polls their look. -/
theorem perform_waitResult (elements : List LateElement) (flavor : AjaxFlavor) (options : PollOptions)
    (timeout : Option Nat) (world : World PageModel) :
    let wait := NativeWait.ofCalls flavor options (elements.map call)
    let limit := (timeout.or options.timeout).getD world.browser.timeout
    let run := Poll.run { options with timeout := timeout.or options.timeout } limit (look elements) world
    (wait.waitResult timeout).perform world = (run.1.result wait.text, run.2) := by
  intro wait limit run
  obtain ⟨root, sound⟩ := NativeWait.ofCalls_eq flavor options (elements.map call)
  have polled : wait.optionsFor timeout = { options with timeout := timeout.or options.timeout } := by
    rw [NativeWait.optionsFor, NativeWait.options_ofCalls]
  have check : World.onBrowser (wait.root.evaluate Clause.evaluate) = look elements := by
    rw [root, ofSteps_clauses, Expression.evaluate_ofChain, look]
  rw [NativeWait.waitResult, sound]
  dsimp only
  rw [check, polled]
  rfl

/-- A wait for elements that appear late is over in the tick behind all their delays, if there is time for that many
ticks, and else with the last tick there is time for. Every element was looked up in all ticks but those in which
elements in front of it were missing. -/
theorem late_elements_found (elements : List LateElement) (flavor : AjaxFlavor) (options : PollOptions)
    (timeout : Option Nat) (world : World PageModel) (different : (elements.map key).Nodup)
    (late : ∀ element ∈ elements, element.On world.browser) (positive : 1 ≤ options.frequency)
    (free : ¬ Poll.GivenUp options world) :
    let wait := NativeWait.ofCalls flavor options (elements.map call)
    let limit := (timeout.or options.timeout).getD world.browser.timeout
    let needed := 1 + delays elements
    let most := limit ⌈/⌉ options.frequency + 1
    (needed ≤ most →
        ∃ after, (wait.waitResult timeout).perform world =
            (.ok { success := true, elapsed := delays elements * options.frequency, attempts := needed,
                   waitedFor := wait.text }, after) ∧
          ∀ front element back, elements = front ++ element :: back →
            after.browser.lookupCount element.key = world.browser.lookupCount element.key + (needed - delays front)) ∧
      (most < needed →
        ∃ after, (wait.waitResult timeout).perform world =
            (.ok { success := false, elapsed := limit ⌈/⌉ options.frequency * options.frequency, attempts := most,
                   waitedFor := wait.text }, after) ∧
          ∀ front element back, elements = front ++ element :: back →
            after.browser.lookupCount element.key = world.browser.lookupCount element.key + (most - delays front)) := by
  intro wait limit needed most
  let polling : PollOptions := { options with timeout := timeout.or options.timeout }
  obtain ⟨ending, after, ran, result, reached⟩ := run_look different late polling positive free wait.text limit
  have performed : (wait.waitResult timeout).perform world = (ending.result wait.text, after) := by
    rw [perform_waitResult, ran]
  have counts (front : List LateElement) (element : LateElement) (back : List LateElement)
      (split : elements = front ++ element :: back) := reached.counted.lookupCount_eq split
  rw [performed, result]
  constructor
  · intro enough
    have inTime : delays elements ≤ limit ⌈/⌉ options.frequency := by omega
    rw [Nat.min_eq_left inTime] at counts ⊢
    refine ⟨after, ?_, ?_⟩
    · rw [decide_eq_true inTime, Nat.add_comm _ 1]
    · intro front element back split
      rw [counts front element back split]
      omega
  · intro short
    have tooLate : ¬ delays elements ≤ limit ⌈/⌉ options.frequency := by omega
    rw [Nat.min_eq_right (Nat.le_of_not_le tooLate)] at counts ⊢
    refine ⟨after, ?_, ?_⟩
    · rw [decide_eq_false tooLate]
    · intro front element back split
      rw [counts front element back split, Nat.zero_add]

/-- A banner that appears at the second lookup and a menu that appears at the third are there in the fourth tick. -/
theorem late_elements_found_fourth :
    let banner : LateElement := ⟨.selector "#banner", 2⟩
    let menu : LateElement := ⟨.selector "#menu", 3⟩
    let page : PageModel := { appearFrom := [("css=#banner", 2), ("css=#menu", 3)] }
    let options : PollOptions := { timeout := some 100, frequency := 5 }
    let wait := NativeWait.ofCalls .jQuery options ([banner, menu].map call)
    ([banner, menu].map key).Nodup ∧ (∀ element ∈ [banner, menu], element.On page) ∧ 1 ≤ options.frequency ∧
      ¬ Poll.GivenUp options { browser := page } ∧
      ∃ after, (wait.waitResult none).perform { browser := page } =
          (.ok { success := true, elapsed := 15, attempts := 4, waitedFor := wait.text }, after) ∧
        after.browser.lookupCount "css=#banner" = 4 ∧ after.browser.lookupCount "css=#menu" = 3 := by
  intro banner menu page options wait
  have different : ([banner, menu].map key).Nodup := by decide
  have late : ∀ element ∈ [banner, menu], element.On page := by
    rw [List.forall_mem_cons, List.forall_mem_singleton]
    exact ⟨on_of_appearFrom (by decide) (by decide) (by decide) (by decide),
      on_of_appearFrom (by decide) (by decide) (by decide) (by decide)⟩
  have positive : 1 ≤ options.frequency := by decide
  have free : ¬ Poll.GivenUp options { browser := page } := fun givenUp => Bool.false_ne_true givenUp.1
  have inTime : 1 + delays [banner, menu] ≤ 100 ⌈/⌉ options.frequency + 1 := by
    rw [Nat.ceilDiv_eq_add_pred_div]
    decide
  obtain ⟨after, performed, counts⟩ :=
    (late_elements_found [banner, menu] .jQuery options none { browser := page } different late positive free).1 inTime
  exact ⟨different, late, positive, free, after, performed, counts [] banner [menu] rfl, counts [banner] menu [] rfl⟩

end LateElement

end BrowserWait
