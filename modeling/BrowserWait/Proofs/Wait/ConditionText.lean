import BrowserWait.Page.Model
import BrowserWait.Proofs.Element.LocatorText
import BrowserWait.Wait.Condition

/-!
# Conditions and their texts

Every condition is read back from its text with the locator that the text of its own locator stands for. A condition
that some text stands for is therefore read back as it was exactly when its locator has no line feed
(`text_stable_iff`), and the label of every clause of a condition is the text of a condition that looks at a browser in
the same way (`labels_run`).
-/

namespace BrowserWait

namespace Text

theorem isBlank_of_isDigit {c : Char} (digit : c.isDigit = true) : isBlank c = false := by
  simp only [Char.isDigit, Bool.and_eq_true, decide_eq_true_eq, ge_iff_le, UInt32.le_iff_toNat_le] at digit
  change 48 ≤ c.toNat ∧ c.toNat ≤ 57 at digit
  simp only [isBlank, Bool.or_eq_false_iff, Bool.and_eq_false_iff, decide_eq_false_iff_not, beq_eq_false_iff_ne]
  omega

theorem trim_numeral (n : Nat) : trim (numeral n) = numeral n := by
  refine trim_of_trimmed ⟨fun c first => ?_, fun c last => ?_⟩
  · exact isBlank_of_isDigit (isDigit_of_mem_numeral (List.mem_of_mem_head? first))
  · exact isBlank_of_isDigit (isDigit_of_mem_numeral (List.mem_of_getLast? last))

theorem lt_of_readUnsigned? {text : List Char} {n : Nat} (read : readUnsigned? text = some n) : n < wordBound := by
  have fits := (Option.filter_eq_some_iff.mp read).2
  simpa using fits

end Text

namespace Condition

/-- The locator in a condition. -/
def locator? : Condition → Option Locator
  | element locator | notElement locator | visible locator | notVisible locator => some locator
  | _ => .none

/-- A condition with another locator in place of its own. -/
def mapLocator (f : Locator → Locator) : Condition → Condition
  | element locator => element (f locator)
  | notElement locator => notElement (f locator)
  | visible locator => visible (f locator)
  | notVisible locator => notVisible (f locator)
  | condition => condition

theorem mapLocator_eq_iff (f : Locator → Locator) (condition : Condition) :
    condition.mapLocator f = condition ↔ ∀ locator ∈ condition.locator?, f locator = locator := by
  cases condition <;> simp [mapLocator, locator?]

theorem ofText_eq_ok_iff {text : String} {condition : Condition} :
    ofText text = .ok condition ↔ ofText? text = some condition := by
  rw [ofText]
  cases ofText? text <;> simp

/-! ## Reading texts with an argument -/

/-- No head is the front of another one, so the order in which they are tried does not matter. -/
theorem withArgument?_head {head : String} {read : List Char → Option Condition} (member : (head, read) ∈ heads)
    (argument : List Char) : withArgument? (head.toList ++ argument) = read argument := by
  simp only [heads, List.mem_cons, Prod.mk.injEq, List.not_mem_nil, or_false] at member
  rcases member with ⟨rfl, rfl⟩ | ⟨rfl, rfl⟩ | ⟨rfl, rfl⟩ | ⟨rfl, rfl⟩ | ⟨rfl, rfl⟩ | ⟨rfl, rfl⟩ <;> rfl

theorem colon_mem_head {head : String} {read : List Char → Option Condition} (member : (head, read) ∈ heads) :
    ':' ∈ head.toList := by
  have heads : ∀ head ∈ heads.map Prod.fst, ':' ∈ head.toList := by decide
  exact heads head (List.mem_map.mpr ⟨_, member, rfl⟩)

theorem ofText?_head {head : String} {read : List Char → Option Condition} (member : (head, read) ∈ heads)
    (argument : String) : ofText? (head ++ argument) = read argument.toList := by
  have other {word : String} (plain : ':' ∉ word.toList) : head ++ argument ≠ word := by
    rintro rfl
    rw [String.toList_append, List.mem_append, not_or] at plain
    exact plain.1 (colon_mem_head member)
  rw [ofText?, if_neg (not_or.mpr ⟨other (by decide), other (by decide)⟩), if_neg (other (by decide)),
    if_neg (other (by decide)), if_neg (other (by decide)), String.toList_append, withArgument?_head member]

/-! ## What texts stand for -/

/-- What is true of every condition that some text stands for. -/
structure Readable (condition : Condition) : Prop where
  /-- Its locator has a value. -/
  filled : ∀ locator ∈ condition.locator?, locator.value ≠ ""
  /-- Its time fits in 64 bits. -/
  fits : ∀ ms, condition = duration (some ms) → ms < Text.wordBound

theorem readable_word {condition : Condition} (word : condition ∈ [none, page, ajax, duration .none]) :
    condition.Readable := by
  simp only [List.mem_cons, List.not_mem_nil, or_false] at word
  rcases word with rfl | rfl | rfl | rfl <;> exact ⟨by simp [locator?], by simp⟩

theorem readable_target {make : Locator → Condition} (locators : ∀ locator, (make locator).locator? = some locator)
    {argument : List Char} {condition : Condition} (read : target? make argument = some condition) :
    condition.Readable := by
  rw [target?] at read
  split at read
  · cases read
  · next filled =>
    cases read
    have text : String.ofList argument ≠ "" := by simpa using filled
    refine ⟨fun locator member => ?_, fun ms same => ?_⟩
    · rw [locators, Option.mem_some] at member
      rw [← member]
      exact Locator.value_ofText_ne text
    · have none := congrArg locator? same
      rw [locators] at none
      cases none

theorem readable_head {head : String} {read : List Char → Option Condition} (member : (head, read) ∈ heads)
    {argument : List Char} {condition : Condition} (reads : read argument = some condition) : condition.Readable := by
  simp only [heads, List.mem_cons, Prod.mk.injEq, List.not_mem_nil, or_false] at member
  rcases member with ⟨_, rfl⟩ | ⟨_, rfl⟩ | ⟨_, rfl⟩ | ⟨_, rfl⟩ | ⟨_, rfl⟩ | ⟨_, rfl⟩
  case inl =>
    cases reads
    exact ⟨by simp [locator?], by simp⟩
  case inr.inr.inr.inr.inr =>
    obtain ⟨ms, number, rfl⟩ := Option.map_eq_some_iff.mp reads
    refine ⟨by simp [locator?], fun other same => ?_⟩
    cases same
    exact Text.lt_of_readUnsigned? number
  all_goals exact readable_target (fun _ => rfl) reads

theorem readable_of_ofText? {text : String} {condition : Condition} (read : ofText? text = some condition) :
    condition.Readable := by
  rw [ofText?] at read
  iterate 4
    split at read
    · cases read
      exact readable_word (by simp)
  obtain ⟨⟨argument, reading⟩, found, reads⟩ := Option.bind_eq_some_iff.mp read
  obtain ⟨⟨head, known⟩, member, found⟩ := List.exists_of_findSome?_eq_some found
  obtain ⟨_, _, same⟩ := Option.map_eq_some_iff.mp found
  cases same
  exact readable_head member reads

/-! ## Reading texts back -/

theorem ofText?_target {make : Locator → Condition} {head : String} (member : (head, target? make) ∈ heads)
    (locator : Locator) : ofText? (head ++ locator.text) = some (make (.ofText locator.text)) := by
  have filled : locator.text.toList.isEmpty = false := by
    rw [Locator.toList_text]
    simp
  rw [ofText?_head member, target?, filled, String.ofList_toList]
  rfl

/-- A condition is read back from its text but for its locator, which is the one that the text of its own stands for. -/
theorem ofText?_text {condition : Condition} (fits : ∀ ms, condition = duration (some ms) → ms < Text.wordBound) :
    ofText? condition.text = some (condition.mapLocator fun locator => .ofText locator.text) := by
  cases condition with
  | none => rfl
  | page => rfl
  | ajax => rfl
  | script expression =>
    have member : ("js:", fun rest => some (script (String.ofList rest))) ∈ heads := List.mem_cons_self
    rw [text, ofText?_head member, String.ofList_toList]
    rfl
  | element locator => exact ofText?_target (by simp [heads]) locator
  | notElement locator => exact ofText?_target (by simp [heads]) locator
  | visible locator => exact ofText?_target (by simp [heads]) locator
  | notVisible locator => exact ofText?_target (by simp [heads]) locator
  | duration time =>
    cases time with
    | none => rfl
    | some ms =>
      have member : ("duration:", fun rest => (Text.readUnsigned? (Text.trim rest)).map fun ms => duration (some ms)) ∈
          heads := by simp [heads]
      rw [text, ofText?_head member, ← Text.numeral_eq_repr, String.toList_ofList, Text.trim_numeral,
        Text.readUnsigned?_numeral (fits ms rfl)]
      rfl

/-- A condition that some text stands for is read back from its own text exactly when its locator has no line feed.
With a line feed it comes back under another locator: the one that takes the CSS strategy in front for a part of the
selector. -/
theorem text_stable_iff {text : String} {condition : Condition} (read : ofText text = .ok condition) :
    ofText condition.text = .ok (condition.mapLocator fun locator => .ofText locator.text) ∧
      (ofText condition.text = .ok condition ↔ ∀ locator ∈ condition.locator?, '\n' ∉ locator.value.toList) := by
  have readable := readable_of_ofText? (ofText_eq_ok_iff.mp read)
  have back := ofText_eq_ok_iff.mpr (ofText?_text readable.fits)
  refine ⟨back, ?_⟩
  rw [back, Except.ok.injEq, mapLocator_eq_iff]
  refine forall₂_congr fun locator member => ?_
  rw [Locator.ofText_text_iff]
  exact and_iff_right (readable.filled locator member)

theorem text_stable_iff_blank_front :
    ofText "visible: id=x" = .ok (visible (.css " id=x")) ∧
      ofText (visible (.css " id=x")).text = .ok (visible (.css " id=x")) := by
  have read : ofText "visible: id=x" = .ok (visible (.css " id=x")) := by decide +kernel
  refine ⟨read, (text_stable_iff read).2.mpr ?_⟩
  intro locator member
  cases member
  decide

/-- A selector of two lines is not read back. -/
theorem two_lines_read_differently :
    ofText "element:a\nb" = .ok (element (.css "a\nb")) ∧
      ofText (element (.css "a\nb")).text = .ok (element (.css "css=a\nb")) ∧
      ofText (element (.css "a\nb")).text ≠ .ok (element (.css "a\nb")) := by
  decide +kernel

/-! ## Labels of clauses -/

section

variable {σ : Type} {flavor : AjaxFlavor} {condition : Condition} {clause : Clause σ}

/-- A condition with the script of its clause written out, where its text names none. -/
def spelledOut (flavor : AjaxFlavor) : Condition → Condition
  | page => script PageScript.ready
  | ajax => script flavor.complete
  | condition => condition

theorem locator?_spelledOut (flavor : AjaxFlavor) (condition : Condition) :
    (condition.spelledOut flavor).locator? = condition.locator? := by
  cases condition <;> rfl

theorem describe_clause (has : condition.clause? flavor = some clause) :
    clause.describe = (condition.spelledOut flavor).text := by
  cases condition <;> cases has <;> rfl

theorem spelledOut_ne_duration (has : condition.clause? flavor = some clause) (time : Option Nat) :
    condition.spelledOut flavor ≠ duration time := by
  cases condition <;> cases has <;> simp [spelledOut]

theorem evaluate_spelledOut [Browser σ] (has : condition.clause? flavor = some clause) (other : AjaxFlavor) :
    ∃ same : Clause σ, (condition.spelledOut flavor).clause? other = some same ∧ same.evaluate = clause.evaluate := by
  cases condition <;> cases has <;> exact ⟨_, rfl, rfl⟩

/-- The label of a clause is the text of a condition whose clause, whatever AJAX library is watched, evaluates as it does.
The two evaluations are one action on any browser, be it one that keeps a record of the calls it gets: the outcome, the
calls in their order and the browser left are the same. -/
theorem labels_run [Browser σ] (has : condition.clause? flavor = some clause)
    (readable : ∀ locator ∈ condition.locator?, locator.value ≠ "" ∧ '\n' ∉ locator.value.toList) :
    ∃ again, ofText clause.describe = .ok again ∧
      ∀ other : AjaxFlavor, ∃ same : Clause σ, again.clause? other = some same ∧ same.evaluate = clause.evaluate := by
  have read := ofText?_text fun ms time => absurd time (spelledOut_ne_duration has (some ms))
  have kept : (condition.spelledOut flavor).mapLocator (fun locator => .ofText locator.text) =
      condition.spelledOut flavor := by
    rw [mapLocator_eq_iff, locator?_spelledOut]
    exact fun locator member => (Locator.ofText_text_iff locator).mpr (readable locator member)
  refine ⟨condition.spelledOut flavor, ?_, evaluate_spelledOut has⟩
  rw [describe_clause has, ofText_eq_ok_iff, read, kept]

end

theorem labels_run_selector_like_id :
    let condition := notVisible (.css "id=x")
    let clause : Clause PageModel := .elementNotVisible (.css "id=x")
    condition.clause? .dojo = some clause ∧
      (∀ locator ∈ condition.locator?, locator.value ≠ "" ∧ '\n' ∉ locator.value.toList) ∧
      ∃ again, ofText "!visible:css=id=x" = .ok again ∧
        ∀ other : AjaxFlavor, ∃ same : Clause PageModel, again.clause? other = some same ∧
          same.evaluate = clause.evaluate := by
  intro condition clause
  have has : condition.clause? .dojo = some clause := rfl
  have readable : ∀ locator ∈ condition.locator?, locator.value ≠ "" ∧ '\n' ∉ locator.value.toList := by
    intro locator member
    cases member
    decide
  exact ⟨has, readable, labels_run has readable⟩

end Condition

end BrowserWait
