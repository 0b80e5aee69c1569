import BrowserWait.Json.Basic

/-!
# Reports

Values reported in JSON. What is not there is reported as null, and a pair as a list of two.
-/

namespace BrowserWait

/-- The types whose values can be reported. -/
class Reported (α : Type) where
  /-- The report of a value. -/
  json : α → Json

namespace Report

export Reported (json)

variable {α β : Type}

instance : Reported Json := ⟨fun value => value⟩

instance : Reported String := ⟨.string⟩

instance : Reported Nat := ⟨.natural⟩

instance : Reported Bool := ⟨.bool⟩

instance : Reported Unit := ⟨fun _ => .null⟩

instance [Reported α] : Reported (Option α) := ⟨fun value => (value.map json).getD .null⟩

instance [Reported α] : Reported (List α) := ⟨fun items => .array (items.map json)⟩

instance [Reported α] [Reported β] : Reported (α × β) := ⟨fun (first, second) => .array [json first, json second]⟩

end Report

end BrowserWait
