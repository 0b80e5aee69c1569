import BrowserWait.Proofs.Poll.Attempt
import BrowserWait.WebDriver.Answer

/-!
# What responses tell

A response tells success or a failure. The status code in its body decides, and where there is none the HTTP status
(`Succeeds`). Blanks around the body do not count. `error_codes_classified` says what failure a code stands for and in
which words, and which codes a wait may retry.
-/

namespace BrowserWait.WebDriver

/-! ## Success and failure -/

/-- The body of a response is a JSON text with this value. -/
def Tells (response : Response) (answer : Json) : Prop := Json.ofChars? (Text.trim response.body.toList) = some answer

instance (response : Response) (answer : Json) : Decidable (Tells response answer) :=
  inferInstanceAs (Decidable (_ = _))

/-- The status code in an answer. -/
def code? (answer : Json) : Option Nat := (answer.member? "status").bind Json.natural?

/-- A response that reports success, and the value it gives: the status code decides, and only where there is none the
HTTP status. -/
inductive Succeeds (response : Response) : Json → Prop where
  | blank (blank : Text.trim response.body.toList = []) (success : response.isSuccess = true) : Succeeds response .null
  | zero {answer : Json} (told : Tells response answer) (zero : code? answer = some 0) :
    Succeeds response ((answer.member? "value").getD .null)
  | uncoded {answer : Json} (told : Tells response answer) (uncoded : code? answer = none)
    (success : response.isSuccess = true) : Succeeds response ((answer.member? "value").getD .null)

section

variable {response : Response} {answer value : Json}

theorem written_of_tells (told : Tells response answer) : Text.trim response.body.toList ≠ [] := by
  intro blank
  rw [Tells, blank] at told
  cases told

theorem classify_blank (blank : Text.trim response.body.toList = []) :
    classify response = if response.isSuccess then .ok .null else .error (refused response.body) := by
  rw [classify, blank]
  rfl

theorem classify_of_tells (told : Tells response answer) :
    classify response = classifyValue response.isSuccess answer := by
  have written : ¬ (Text.trim response.body.toList).isEmpty = true :=
    fun blank => written_of_tells told (List.isEmpty_iff.mp blank)
  rw [classify, if_neg written, told]

theorem classify_untold (written : Text.trim response.body.toList ≠ []) (untold : ∀ answer, ¬ Tells response answer) :
    classify response = .error
      (if response.isSuccess then
        .invalidResponse ("expected JSON, got: " ++ String.ofList (Text.trim response.body.toList))
      else refused response.body) := by
  have written : ¬ (Text.trim response.body.toList).isEmpty = true := fun blank => written (List.isEmpty_iff.mp blank)
  rw [classify, if_neg written, Option.eq_none_iff_forall_ne_some.mpr untold]

theorem classifyValue_of_code {code : Nat} (coded : code? answer = some code) (success : Bool) :
    classifyValue success answer =
      if code = 0 then .ok answer else .error (.ofAnswer (.ofCode code) (errorText? answer)) := by
  rw [code?] at coded
  rw [classifyValue, coded]
  cases code with
  | zero => rfl
  | succ code => rfl

theorem classifyValue_uncoded (uncoded : code? answer = none) (success : Bool) :
    classifyValue success answer =
      if success then .ok answer else .error (.ofAnswer .unknownError (errorText? answer)) := by
  rw [code?] at uncoded
  rw [classifyValue, uncoded]
  rfl

theorem classify_of_succeeds (succeeds : Succeeds response value) :
    ∃ answer, classify response = .ok answer ∧ (answer.member? "value").getD .null = value := by
  cases succeeds with
  | blank blank success => exact ⟨.null, (classify_blank blank).trans (if_pos success), rfl⟩
  | zero told zero =>
    exact ⟨_, (classify_of_tells told).trans ((classifyValue_of_code zero _).trans (if_pos rfl)), rfl⟩
  | uncoded told uncoded success =>
    exact ⟨_, (classify_of_tells told).trans ((classifyValue_uncoded uncoded _).trans (if_pos success)), rfl⟩

/-- A response tells success, or a failure that is never one of the kind of a success. -/
theorem succeeds_or_fails (response : Response) :
    (∃ value, Succeeds response value) ∨
      ∃ failure, classify response = .error failure ∧ failure.status? ≠ some .success := by
  cases told : Json.ofChars? (Text.trim response.body.toList) with
  | some answer =>
    have classified : classify response = classifyValue response.isSuccess answer := classify_of_tells told
    cases coded : code? answer with
    | some code =>
      by_cases zero : code = 0
      · exact .inl ⟨_, .zero told (zero ▸ coded)⟩
      · rw [classifyValue_of_code coded, if_neg zero] at classified
        exact .inr ⟨_, classified, by simpa using mt Status.ofCode_eq_success_iff.mp zero⟩
    | none =>
      by_cases success : response.isSuccess = true
      · exact .inl ⟨_, .uncoded told coded success⟩
      · rw [classifyValue_uncoded coded, if_neg success] at classified
        exact .inr ⟨_, classified, by simp⟩
  | none =>
    have untold : ∀ answer, ¬ Tells response answer := Option.eq_none_iff_forall_ne_some.mp told
    by_cases blank : Text.trim response.body.toList = []
    · by_cases success : response.isSuccess = true
      · exact .inl ⟨_, .blank blank success⟩
      · exact .inr ⟨_, (classify_blank blank).trans (if_neg success), by simp [refused, Failure.status?]⟩
    · refine .inr ⟨_, classify_untold blank untold, ?_⟩
      split <;> simp [refused, Failure.status?]

theorem exists_succeeds_iff (response : Response) :
    (∃ value, Succeeds response value) ↔ ∃ answer, classify response = .ok answer := by
  constructor
  · rintro ⟨value, succeeds⟩
    obtain ⟨answer, classified, -⟩ := classify_of_succeeds succeeds
    exact ⟨answer, classified⟩
  · rintro ⟨answer, classified⟩
    rcases succeeds_or_fails response with succeeds | ⟨failure, fails, -⟩
    · exact succeeds
    · cases classified.symm.trans fails

end

/-! ## What an error is called -/

/-- The text that an error answer gives: a message, or a state where there is no message, or the value itself. -/
inductive Explains (members : List (String × Json)) : String → Prop where
  | message {parts : List (String × Json)} {text : String} (value : members.lookup "value" = some (.object parts))
    (message : parts.lookup "message" = some (.string text)) : Explains members text
  | state {parts : List (String × Json)} {text : String} (value : members.lookup "value" = some (.object parts))
    (unsaid : parts.lookup "message" = none) (state : parts.lookup "state" = some (.string text)) :
    Explains members text
  | value {text : String} (value : members.lookup "value" = some (.string text)) : Explains members text

/-- The words for an error of some kind: those of the answer, or the kind's own where it gives none. -/
inductive Worded (members : List (String × Json)) (kind : Status) : String → Prop where
  | explained {text : String} (explains : Explains members text) (filled : text ≠ "") : Worded members kind text
  | unexplained (empty : ∀ text, Explains members text → text = "") : Worded members kind kind.detail

theorem errorText?_eq_some_iff {members : List (String × Json)} {text : String} :
    errorText? (.object members) = some text ↔ Explains members text := by
  have opened : errorText? (.object members) = (members.lookup "value").bind fun value =>
      (((value.member? "message").or (value.member? "state")).bind Json.text?).or value.text? := rfl
  rw [opened]
  constructor
  · intro found
    obtain ⟨value, held, found⟩ := Option.bind_eq_some_iff.mp found
    cases value with
    | string value =>
      obtain rfl : value = text := by simpa [Json.member?, Json.text?] using found
      exact .value held
    | object parts =>
      have part : ((parts.lookup "message").or (parts.lookup "state")).bind Json.text? = some text := by
        simpa [Json.member?, Json.text?] using found
      obtain ⟨said, either, text⟩ := Option.bind_eq_some_iff.mp part
      obtain rfl := Json.text?_eq_some_iff.mp text
      rcases Option.or_eq_some_iff.mp either with message | ⟨unsaid, state⟩
      · exact .message held message
      · exact .state held unsaid state
    | _ => simp [Json.member?, Json.text?] at found
  · rintro (⟨value, message⟩ | ⟨value, unsaid, state⟩ | value)
    · simp [value, message, Json.member?, Json.text?]
    · simp [value, unsaid, state, Json.member?, Json.text?]
    · simp [value, Json.member?, Json.text?]

theorem Explains.unique {members : List (String × Json)} {text other : String} (explains : Explains members text)
    (explains' : Explains members other) : other = text :=
  Option.some.inj ((errorText?_eq_some_iff.mpr explains').symm.trans (errorText?_eq_some_iff.mpr explains))

theorem Worded.unique {members : List (String × Json)} {kind : Status} {message other : String}
    (worded : Worded members kind message) (worded' : Worded members kind other) : other = message := by
  cases worded with
  | explained explains filled =>
    cases worded' with
    | explained explains' _ => exact explains.unique explains'
    | unexplained empty => exact absurd (empty _ explains) filled
  | unexplained empty =>
    cases worded' with
    | explained explains' filled => exact absurd (empty _ explains') filled
    | unexplained _ => rfl

theorem exists_worded (members : List (String × Json)) (kind : Status) :
    ∃ message, Worded members kind message ∧
      Failure.ofAnswer kind (errorText? (.object members)) = .remote kind message := by
  cases said : errorText? (.object members) with
  | none =>
    refine ⟨kind.detail, .unexplained fun text explains => ?_, rfl⟩
    cases said.symm.trans (errorText?_eq_some_iff.mpr explains)
  | some text =>
    have explains := errorText?_eq_some_iff.mp said
    by_cases empty : text = ""
    · subst empty
      exact ⟨kind.detail, .unexplained fun other explains' => explains.unique explains', rfl⟩
    · exact ⟨text, .explained explains empty, by simp [Failure.ofAnswer, Option.filter, empty]⟩

/-! ## Codes of errors -/

end BrowserWait.WebDriver

namespace BrowserWait.Status

/-- The codes of the kinds that a wait may not retry. -/
def lastingCodes : List Nat := [6, 9, 15, 17, 19, 23, 24, 25, 26, 27, 29, 30, 31, 32, 33, 34]

theorem mem_lastingCodes_iff {code : Nat} :
    code ∈ lastingCodes ↔ ∃ kind : Status, kind.category = .protocol ∧ kind.code = code := by
  have listed : lastingCodes = (all.filter (·.category == .protocol)).map Status.code := by decide
  rw [listed]
  simp [mem_all]

/-- A wait may retry every error but those of the lasting codes, so every error whose code is in no table. -/
theorem isRetryable_ofCode_iff {code : Nat} (nonzero : code ≠ 0) :
    (ofCode code).isRetryable = true ↔ code ∉ lastingCodes := by
  rw [mem_lastingCodes_iff]
  by_cases known : ∃ kind : Status, kind.code = code
  · obtain ⟨kind, rfl⟩ := known
    rw [ofCode_code]
    have own : (∃ other : Status, other.category = .protocol ∧ other.code = kind.code) ↔ kind.category = .protocol := by
      constructor
      · rintro ⟨other, lasting, same⟩
        obtain rfl : other = kind := by rw [← ofCode_code other, same, ofCode_code]
        exact lasting
      · exact fun lasting => ⟨kind, lasting, rfl⟩
    rw [own]
    revert nonzero
    cases kind <;> decide
  · rw [ofCode_of_not_mem (not_exists.mp known)]
    exact ⟨fun _ ⟨kind, _, same⟩ => known ⟨kind, same⟩, fun _ => rfl⟩

end BrowserWait.Status

namespace BrowserWait.WebDriver

theorem tells_surrounded {status : Nat} {before text after : String} {answer : Json}
    (blank : ∀ c ∈ before.toList ++ after.toList, Text.isBlank c = true) (trimmed : Text.Trimmed text.toList)
    (read : Json.parse? text = some answer) : Tells ⟨status, before ++ text ++ after⟩ answer := by
  have filled : text.toList ≠ [] := by
    intro empty
    rw [Json.parse?, empty] at read
    cases read
  have kept : Text.trim (before ++ text ++ after).toList = text.toList := by
    rw [String.toList_append, String.toList_append, Text.trim_surrounded blank trimmed filled]
  rw [Tells, kept]
  exact read

/-- An object whose status is the code of an error is that error, whatever the HTTP status and the blanks around the
object: its kind is that of the code, its words are those of the object or else the kind's own. A check that fails with
it counts as not satisfied exactly when its code is none of the lasting ones, and ends the wait otherwise. No response
is an error of the kind of a success. -/
theorem error_codes_classified :
    (∀ {status code : Nat} {before text after : String} {members : List (String × Json)},
      (∀ c ∈ before.toList ++ after.toList, Text.isBlank c = true) → Text.Trimmed text.toList →
      Json.parse? text = some (.object members) → members.lookup "status" = some (.natural code) → code ≠ 0 →
        ∃ message, (∀ other, Worded members (.ofCode code) other ↔ other = message) ∧
          let failure : Failure := .remote (.ofCode code) message
          classify ⟨status, before ++ text ++ after⟩ = .error failure ∧
            ∀ {σ : Type} (options : PollOptions) (timeout : Nat) (check : Action (World σ) Bool)
              (progress : Poll.Progress) (world : World σ), ¬ Poll.GivenUp options world →
              (check.perform world).1 = .error failure →
                (Poll.attempt options timeout check progress world =
                    Poll.attempt options timeout (Poll.unmet check) progress world ↔ code ∉ Status.lastingCodes) ∧
                  (code ∈ Status.lastingCodes → Poll.attempt options timeout check progress world =
                    (.inl (.aborted failure), (check.perform world).2))) ∧
      ∀ response message, classify response ≠ .error (.remote .success message) := by
  constructor
  · intro status code before text after members blank trimmed read coded nonzero
    obtain ⟨message, worded, failed⟩ := exists_worded members (.ofCode code)
    refine ⟨message, fun other => ⟨worded.unique, fun same => same ▸ worded⟩, ?_, ?_⟩
    · have told : Tells ⟨status, before ++ text ++ after⟩ (.object members) := tells_surrounded blank trimmed read
      have code? : code? (.object members) = some code := by rw [code?, Json.member?, coded]; rfl
      rw [classify_of_tells told, classifyValue_of_code code?, if_neg nonzero, failed]
    · intro σ options timeout check progress world free fails
      have retried : Failure.isTransient (.remote (.ofCode code) message) = (Status.ofCode code).isRetryable := rfl
      refine ⟨?_, fun lasting => Poll.attempt_of_error free fails ?_⟩
      · rw [Poll.attempt_unmet_iff free fails, retried, Status.isRetryable_ofCode_iff nonzero]
      · rw [retried, Bool.eq_false_iff, ne_eq, Status.isRetryable_ofCode_iff nonzero]
        exact not_not_intro lasting
  · intro response message fails
    rcases succeeds_or_fails response with ⟨value, succeeds⟩ | ⟨failure, fails', other⟩
    · obtain ⟨answer, classified, -⟩ := classify_of_succeeds succeeds
      cases classified.symm.trans fails
    · obtain rfl := Except.error.inj (fails'.symm.trans fails)
      exact other rfl

/-- An error of a code that stands in no table keeps its words, and a wait goes on behind it. -/
theorem unlisted_code_retried :
    let text := "\x7b\"status\":99,\"value\":\x7b\"message\":\"odd\"\x7d\x7d"
    let members : List (String × Json) := [("status", .natural 99), ("value", .object [("message", .string "odd")])]
    let failure : Failure := .remote .unknownError "odd"
    let check : Action (World Unit) Bool := throw failure
    let world : World Unit := { browser := () }
    (∀ c ∈ " ".toList ++ "\u00a0".toList, Text.isBlank c = true) ∧ Text.Trimmed text.toList ∧
      Json.parse? text = some (.object members) ∧ members.lookup "status" = some (.natural 99) ∧ 99 ≠ 0 ∧
      classify ⟨500, " " ++ text ++ "\u00a0"⟩ = .error failure ∧ ¬ Poll.GivenUp {} world ∧
      (check.perform world).1 = .error failure ∧
      Poll.attempt {} 100 check {} world = Poll.attempt {} 100 (Poll.unmet check) {} world := by
  intro text members failure check world
  have blank : ∀ c ∈ " ".toList ++ "\u00a0".toList, Text.isBlank c = true := by
    intro c member
    obtain rfl | rfl : c = ' ' ∨ c = '\u00a0' := by simpa using member
    · rfl
    · rfl
  have trimmed : Text.Trimmed text.toList := by
    have front : text.toList.head? = some '\x7b' := by decide
    have back : text.toList.getLast? = some '\x7d' := by decide
    constructor
    · intro c first
      obtain rfl := Option.some.inj (front.symm.trans first)
      rfl
    · intro c last
      obtain rfl := Option.some.inj (back.symm.trans last)
      rfl
  have read : Json.parse? text = some (.object members) := by decide +kernel
  obtain ⟨classifies, -⟩ := error_codes_classified
  obtain ⟨message, words, classified, counts⟩ := @classifies 500 99 _ _ _ _ blank trimmed read rfl (by decide)
  obtain rfl : "odd" = message := (words "odd").mp (.explained (.message rfl rfl) (by decide))
  have free : ¬ Poll.GivenUp {} world := fun givenUp => Bool.noConfusion givenUp.1
  have retried : Poll.attempt {} 100 check {} world = Poll.attempt {} 100 (Poll.unmet check) {} world :=
    (counts {} 100 check {} world free rfl).1.mpr (by decide)
  exact ⟨blank, trimmed, read, rfl, by decide, classified, free, rfl, retried⟩

end BrowserWait.WebDriver
