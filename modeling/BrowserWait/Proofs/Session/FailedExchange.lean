import BrowserWait.Proofs.WebDriver.Classification
import BrowserWait.SeleniumRc.Answer

/-!
# Failed exchanges

Which responses that report a failure are taken for one. An RC response is a success exactly when both its HTTP status
and its body say so. A JSONWire response reports a failure by either of the two, and is taken for a success
nevertheless in two cases (`Overlooked`): its status code is zero, whatever the HTTP status, or what stands for a status
is no number that could be a code. `failures_taken_for_failures` has both protocols.
-/

namespace BrowserWait

namespace WebDriver

/-- A response that reports a failure: by its HTTP status, or by a status in its body other than null and the integer
zero. -/
inductive ReportsFailure (response : Response) : Prop where
  | refused (failing : 300 ≤ response.status)
  | coded {members : List (String × Json)} {status : Json} (told : Tells response (.object members))
    (held : members.lookup "status" = some status) (given : status ≠ .null) (nonzero : status ≠ .natural 0)

/-- A reported failure that is taken for a success. -/
inductive Overlooked (response : Response) : Prop where
  | zero {members : List (String × Json)} (told : Tells response (.object members))
    (zero : members.lookup "status" = some (.natural 0)) (failing : 300 ≤ response.status)
  | unnatural {members : List (String × Json)} {status : Json} (told : Tells response (.object members))
    (held : members.lookup "status" = some status) (given : status ≠ .null) (unnatural : ∀ code, status ≠ .natural code)
    (success : response.status < 300)

section

variable {response : Response}

theorem code?_object (members : List (String × Json)) :
    code? (.object members) = (members.lookup "status").bind Json.natural? := rfl

theorem isSuccess_iff : response.isSuccess = true ↔ response.status < 300 := by simp [Response.isSuccess]

theorem Overlooked.succeeds (overlooked : Overlooked response) : ∃ value, Succeeds response value := by
  cases overlooked with
  | zero told zero => exact ⟨_, .zero told (by rw [code?_object, zero]; rfl)⟩
  | unnatural told held given unnatural success =>
    refine ⟨_, .uncoded told ?_ (isSuccess_iff.mpr success)⟩
    rw [code?_object, held, Option.bind_some, Option.eq_none_iff_forall_ne_some]
    exact fun code read => unnatural code (Json.natural?_eq_some_iff.mp read)

theorem overlooked_of_succeeds (reports : ReportsFailure response) {value : Json} (succeeds : Succeeds response value) :
    Overlooked response := by
  cases succeeds with
  | blank blank success =>
    cases reports with
    | refused failing => exact absurd (isSuccess_iff.mp success) (Nat.not_lt.mpr failing)
    | coded told => exact absurd blank (written_of_tells told)
  | @zero answer told zero =>
    cases answer with
    | object members =>
      obtain ⟨status, held, read⟩ := Option.bind_eq_some_iff.mp zero
      obtain rfl := Json.natural?_eq_some_iff.mp read
      cases reports with
      | refused failing => exact .zero told held failing
      | coded told' held' _ nonzero =>
        cases told.symm.trans told'
        exact absurd (Option.some.inj (held'.symm.trans held)) nonzero
    | _ => cases zero
  | uncoded told uncoded success =>
    cases reports with
    | refused failing => exact absurd (isSuccess_iff.mp success) (Nat.not_lt.mpr failing)
    | coded told' held given _ =>
      cases told.symm.trans told'
      rw [code?_object, held, Option.bind_some] at uncoded
      refine .unnatural told held given (fun code same => ?_) (isSuccess_iff.mp success)
      cases (Json.natural?_eq_some_iff.mpr same).symm.trans uncoded

end

end WebDriver

/-- A response that reports a failure is taken for one in JSONWire unless it is overlooked. In RC a response is taken for a
success exactly when its HTTP status is one and its body is `OK`, alone or with a comma and the data. -/
theorem failures_taken_for_failures (response : Response) :
    (WebDriver.ReportsFailure response →
      ((∃ failure, WebDriver.classify response = .error failure) ↔ ¬ WebDriver.Overlooked response)) ∧
      ∀ data : String, SeleniumRc.classify response = .ok data ↔
        response.status < 300 ∧ (response.body = "OK" ∧ data = "" ∨ response.body = "OK," ++ data) := by
  constructor
  · intro reports
    constructor
    · rintro ⟨failure, fails⟩ overlooked
      obtain ⟨answer, classified⟩ := (WebDriver.exists_succeeds_iff response).mp overlooked.succeeds
      cases classified.symm.trans fails
    · intro seen
      rcases WebDriver.succeeds_or_fails response with ⟨value, succeeds⟩ | ⟨failure, fails, -⟩
      · exact absurd (WebDriver.overlooked_of_succeeds reports succeeds) seen
      · exact ⟨failure, fails⟩
  · intro data
    rw [SeleniumRc.classify_eq_ok_iff, WebDriver.isSuccess_iff]

/-- A status that is a text is no success when the HTTP status is none. -/
theorem textual_status_taken_for_failure :
    let response : Response := ⟨500, "\x7b\"status\":\"0\"\x7d"⟩
    WebDriver.ReportsFailure response ∧ ∃ failure, WebDriver.classify response = .error failure := by
  intro response
  have told : WebDriver.Tells response (.object [("status", .string "0")]) := by decide +kernel
  have reports : WebDriver.ReportsFailure response := .refused (by decide)
  refine ⟨reports, ((failures_taken_for_failures response).1 reports).mpr ?_⟩
  rintro (⟨told', zero, -⟩ | ⟨-, -, -, -, success⟩)
  · cases told.symm.trans told'
    cases zero
  · exact absurd success (by decide)

/-- A failing HTTP status is overlooked behind a zero, and a failing status behind an HTTP status of success when it is
negative, a fraction or a text. -/
theorem failures_overlooked :
    let zero : Response := ⟨500, "\x7b\"status\":0,\"value\":\"boom\"\x7d"⟩
    let negative : Response := ⟨200, "\x7b\"status\":-1,\"value\":\"boom\"\x7d"⟩
    let textual : Response := ⟨200, "\x7b\"status\":\"7\",\"value\":\"boom\"\x7d"⟩
    ∀ response ∈ [zero, negative, textual],
      WebDriver.ReportsFailure response ∧ ∃ answer, WebDriver.classify response = .ok answer := by
  intro zero negative textual response listed
  have zeroTold : WebDriver.Tells zero (.object [("status", .natural 0), ("value", .string "boom")]) := by
    decide +kernel
  have negativeTold : WebDriver.Tells negative
      (.object [("status", .number (.integer (-1))), ("value", .string "boom")]) := by
    decide +kernel
  have textualTold : WebDriver.Tells textual (.object [("status", .string "7"), ("value", .string "boom")]) := by
    decide +kernel
  rw [← WebDriver.exists_succeeds_iff]
  simp only [List.mem_cons, List.not_mem_nil, or_false] at listed
  obtain rfl | rfl | rfl := listed
  · exact ⟨.refused (by decide), WebDriver.Overlooked.succeeds (.zero zeroTold rfl (by decide))⟩
  · exact ⟨.coded negativeTold rfl (by simp) (by simp [Json.natural]),
      WebDriver.Overlooked.succeeds (.unnatural negativeTold rfl (by simp) (by simp [Json.natural]) (by decide))⟩
  · exact ⟨.coded textualTold rfl (by simp) (by simp [Json.natural]),
      WebDriver.Overlooked.succeeds (.unnatural textualTold rfl (by simp) (by simp [Json.natural]) (by decide))⟩

end BrowserWait
