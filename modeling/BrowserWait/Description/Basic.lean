import BrowserWait.Json.Basic

/-!
# Descriptions

Values described in JSON, so that a page, a server's answers and a wait can be kept in a file and tried out. A
described record is an object. Its unknown fields are ignored, and a field that is missing or null takes its default,
so a description names only what differs from it.
-/

namespace BrowserWait

/-- The types whose values can be described. -/
class Described (α : Type) where
  /-- The value of a description. -/
  read? : Json → Option α

namespace Description

export Described (read?)

variable {α β : Type}

instance : Described Json := ⟨some⟩

instance : Described String := ⟨Json.text?⟩

instance : Described Nat := ⟨Json.natural?⟩

instance : Described Bool := ⟨Json.flag?⟩

instance [Described α] : Described (Option α) := ⟨fun value => (read? value).map some⟩

instance [Described α] : Described (List α) where
  read?
    | .array items => items.mapM read?
    | _ => none

instance [Described α] [Described β] : Described (α × β) where
  read?
    | .array [first, second] => return (← read? first, ← read? second)
    | _ => none

/-! ## Fields -/

/-- A field, or its default. -/
def fieldOr [Described α] (default : α) (record : Json) (key : String) : Option α :=
  match record.member? key with
  | none | some .null => some default
  | some value => read? value

/-- A field whose default is the least informative value of its type. -/
def field [Described α] [Inhabited α] (record : Json) (key : String) : Option α := fieldOr default record key

/-- A field that has to be there. -/
def need [Described α] (record : Json) (key : String) : Option α := (record.member? key).bind read?

/-- Whether a field is there, be it null. -/
def has (record : Json) (key : String) : Bool := (record.member? key).isSome

/-- A text, empty by default. -/
def text (record : Json) (key : String) : Option String := field record key

/-- A list of any values, empty by default. -/
def items (record : Json) (key : String) : Option (List Json) := field record key

/-- A number that need not be given. -/
def number? (record : Json) (key : String) : Option (Option Nat) := field record key

/-- The members of an object, none by default. -/
def members [Described α] (record : Json) (key : String) : Option (List (String × α)) := do
  match ← fieldOr (Json.object []) record key with
  | .object members => members.mapM fun (key, value) => do return (key, ← read? value)
  | _ => none

end Description

end BrowserWait
