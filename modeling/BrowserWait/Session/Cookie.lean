import BrowserWait.Document.Node
import BrowserWait.Text.Blank
import BrowserWait.Text.Split

/-!
# Cookies

Cookies as documents, and the header-style text in which an RC server lists them. Surrounding quotes are not part of
a cookie's value.
-/

namespace BrowserWait

/-- A cookie. -/
structure Cookie where
  name : String
  value : String
  path : Option String := none
  domain : Option String := none
  secure : Option Bool := none
  /-- When it expires, in seconds since 1970. -/
  expiry : Option Nat := none
deriving DecidableEq, Repr, Inhabited

namespace Cookie

/-- Reads a cookie from a document. -/
def ofNode? {ν : Type} [Node ν] (node : ν) : Option Cookie := do
  let fields ← Node.fields? node
  guard (fields.fits 6)
  return {
    name := ← fields.required Node.text? 0 ["name"]
    value := ← fields.required Node.text? 1 ["value"]
    path := ← fields.optional Node.text? 2 ["path"]
    domain := ← fields.optional Node.text? 3 ["domain"]
    secure := ← fields.optional Node.flag? 4 ["secure"]
    expiry := ← fields.optional Node.natural? 5 ["expiry"] }

/-- A field of a document that is left out when it is not set. -/
def optionalField (key : String) (value : Option Json) : List (String × Json) :=
  match value with
  | some value => [(key, value)]
  | none => []

/-- A cookie as a document. -/
def json (cookie : Cookie) : Json :=
  .ofMembers ([("name", .string cookie.name), ("value", .string cookie.value)] ++
    optionalField "path" (cookie.path.map .string) ++ optionalField "domain" (cookie.domain.map .string) ++
    optionalField "secure" (cookie.secure.map .bool) ++ optionalField "expiry" (cookie.expiry.map .natural))

/-- A cookie is read back from its document. -/
theorem ofNode?_json (cookie : Cookie) : ofNode? cookie.json = some cookie := by
  rcases cookie with ⟨name, value, _ | path, _ | domain, _ | secure, _ | expiry⟩ <;> rfl

/-- A value without one pair of surrounding double quotes. -/
def unquotedChars (value : List Char) : List Char :=
  ((Text.after? ['"'] value).bind (Text.before? ['"'])).getD value

/-- A value without one pair of surrounding double quotes. -/
def unquoted (value : String) : String := String.ofList (unquotedChars value.toList)

/-- The name and the value of one piece of a header; a piece without an equals sign has none. -/
def ofPiece? (piece : List Char) : Option (String × String) := do
  let (name, value) ← Text.cut? ['='] piece
  return (String.ofList (Text.trim name), String.ofList (unquotedChars (Text.trim value)))

/-- The names and values of a header-style text, in order. -/
def ofHeaderChars (text : List Char) : List (String × String) :=
  (Text.pieces ';' text).filterMap fun piece => ofPiece? (Text.trim piece)

/-- The names and values of a header-style text, in order. -/
def ofHeader (text : String) : List (String × String) := ofHeaderChars text.toList

/-- The texts as the members of an object; of two with the same name the later one counts. -/
def namesAndValues (pairs : List (String × String)) : Json :=
  .ofMembers (pairs.map fun (name, value) => (name, .string value))

end Cookie

end BrowserWait
