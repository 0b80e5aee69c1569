import BrowserWait.Failure.Basic

/-!
# Page scripts

The JavaScript texts a wait sends into a page: expressions over an AJAX library's counter, the sentinel property
that tells an old document from a new one, and the wrapping that makes a script return an expression's value.
-/

namespace BrowserWait

/-- The AJAX libraries whose activity can be watched. -/
inductive AjaxFlavor where
  | jQuery
  | prototype
  | dojo
deriving DecidableEq, Repr, Inhabited

namespace AjaxFlavor

/-- Every flavor, the one watched unless told otherwise first. -/
def all : List AjaxFlavor := [jQuery, prototype, dojo]

/-- The name of a flavor in documents. -/
def name : AjaxFlavor → String
  | jQuery => "jquery"
  | prototype => "prototype"
  | dojo => "dojo"

/-- The global object of a library. -/
def global : AjaxFlavor → String
  | jQuery => "window.jQuery"
  | prototype => "window.Ajax"
  | dojo => "window.dojo"

/-- The number of requests in flight, once the library is there. -/
def counter : AjaxFlavor → String
  | jQuery => "window.jQuery.active"
  | prototype => "window.Ajax.activeRequestCount"
  | dojo => "window.dojo.io.XMLHTTPTransport.inFlight.length"

/-- True while requests are in flight; false without the library. -/
def pending (flavor : AjaxFlavor) : String := "!!" ++ flavor.global ++ " && " ++ flavor.counter ++ " != 0"

/-- True while no request is in flight; true without the library. -/
def complete (flavor : AjaxFlavor) : String := "!" ++ flavor.global ++ " || " ++ flavor.counter ++ " == 0"

/-- The flavor with a name. -/
def ofName? (name : String) : Option AjaxFlavor := all.find? (·.name == name)

/-- The flavor of a text, in any ASCII case. -/
def ofText (text : String) : Except Failure AjaxFlavor :=
  let lower := text.map Char.toLower
  match ofName? lower with
  | some flavor => .ok flavor
  | none => .error (.config ("unknown ajax flavor '" ++ lower ++ "'"))

@[simp] theorem ofName?_name (flavor : AjaxFlavor) : ofName? flavor.name = some flavor := by
  cases flavor <;> decide

end AjaxFlavor

namespace PageScript

/-! ## The sentinel -/

/-- The window property that is set on a document about to be left. -/
def sentinel : String := "__probar_remote_page__"

/-- True while the marked document is still there. -/
def loading : String := "window." ++ sentinel ++ " === true"

/-- True once another document took the place of the marked one. -/
def ready : String := "window." ++ sentinel ++ " === undefined"

/-- The statement that marks a document. -/
def mark : String := "window." ++ sentinel ++ " = true"

/-! ## Wrapping -/

/-- What stands before an expression in the script that returns its value. -/
def wrapFront : String := "return (function() \x7b var value = "

/-- What stands behind an expression in the script that returns its value. -/
def wrapBack : String := "; return value; \x7d)()"

/-- The script that returns the value of an expression. -/
def returning (expression : String) : String := wrapFront ++ expression ++ wrapBack

end PageScript

end BrowserWait
