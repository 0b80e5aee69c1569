import BrowserWait.Json.Basic

/-!
# Typed reading of documents

Records and choices are read from the nodes of a document in some format. A record is given by name or, where the
format allows it, as a list in the order of its fields; unknown names are ignored, a field given twice is refused,
and a missing field takes its default if it has one.
-/

namespace BrowserWait

/-- The fields of a record: under their names, or in their order. -/
inductive Fields (ν : Type) where
  | named (members : List (String × ν))
  | listed (items : List ν)

/-- A document format, as far as reading records needs it. -/
class Node (ν : Type) where
  /-- Whether a node stands for "not given". -/
  isNull : ν → Bool
  /-- The text of a node. -/
  text? : ν → Option String
  /-- The number below `2 ^ 64` of a node. -/
  natural? : ν → Option Nat
  /-- The truth value of a node. -/
  flag? : ν → Option Bool
  /-- The name of a choice among constants. -/
  choice? : ν → Option String
  /-- The fields of a record. -/
  fields? : ν → Option (Fields ν)
  /-- The members of a JSON object. -/
  members? : ν → Option (List (String × Json))

namespace Fields

variable {ν : Type}

/-- Whether there are no more fields than `count`; names can be any number. -/
def fits (count : Nat) : Fields ν → Bool
  | named _ => true
  | listed items => items.length ≤ count

/-- The node of the field at a position with the given names, if it is there; refused when it is there twice. -/
def find? (position : Nat) (names : List String) : Fields ν → Option (Option ν)
  | named members =>
    match members.filter (fun (name, _) => names.contains name) with
    | [] => some none
    | [(_, node)] => some (some node)
    | _ => none
  | listed items => some items[position]?

/-- A field that has to be there. -/
def required (read : ν → Option α) (fields : Fields ν) (position : Nat) (names : List String) : Option α := do
  read (← (← fields.find? position names))

/-- A field with a default. -/
def orDefault (default : α) (read : ν → Option α) (fields : Fields ν) (position : Nat) (names : List String) :
    Option α := do
  match ← fields.find? position names with
  | some node => read node
  | none => some default

/-- A field that may be left out or null. -/
def optional [Node ν] (read : ν → Option α) (fields : Fields ν) (position : Nat) (names : List String) :
    Option (Option α) := do
  match ← fields.find? position names with
  | some node => if Node.isNull node then some none else (read node).map some
  | none => some none

end Fields

namespace Json

/-- A choice is a name, or an object with that name as its only key and null as its value. -/
def choice? : Json → Option String
  | string name => some name
  | object [(name, null)] => some name
  | _ => none

/-- The fields of a record are an object's members or an array's items. -/
def fields? : Json → Option (Fields Json)
  | object members => some (.named members)
  | array items => some (.listed items)
  | _ => none

instance : Node Json where
  isNull value := value == null
  text? := text?
  natural? := natural?
  flag? := flag?
  choice? := choice?
  fields? := fields?
  members?
    | object members => some members
    | _ => none

end Json

end BrowserWait
