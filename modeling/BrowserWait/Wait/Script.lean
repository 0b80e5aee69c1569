import BrowserWait.Page.Script
import BrowserWait.Setup.Diagnostics
import BrowserWait.Text.Quoted
import BrowserWait.Wait.Directive

/-!
# Script waits

Waits that are compiled to one JavaScript condition for a server to evaluate. Every clause is a function that is
called at once; neighbours are joined by `&&`, or by `||` where an OR was asked for, and the script's own precedence
groups them. Texts enter the script as single-quoted literals, and line feeds become spaces.
-/

namespace BrowserWait

/-- One clause of a compiled condition: a function that is called at once. -/
structure Fragment where
  /-- The statements before the result is known. -/
  setup : String
  /-- The statement that logs the result; empty without a log. -/
  log : String
  /-- The expression the function returns. -/
  result : String
  /-- The clause in readable form. -/
  label : String
deriving DecidableEq, Repr

namespace Fragment

/-- The script of a fragment. -/
def script (fragment : Fragment) : String :=
  "(function() \x7b " ++ fragment.setup ++ fragment.log ++ "return " ++ fragment.result ++ "; \x7d)()"

/-- The statement that logs a variable under a clause's name and arguments. -/
def logging (name : String) (arguments : List String) (var : String) : String :=
  "LOG.info('wait_for " ++ quote name ++ "(" ++ ", ".intercalate (arguments.map quote) ++ ")=' + " ++ var ++ "); "

/-- A truth value in a script. -/
def literal (value : Bool) : String := if value then "true" else "false"

end Fragment

/-- A part of a wait's text: a clause, or the OR in front of the next one. -/
inductive Part where
  | fragment (fragment : Fragment)
  | or
deriving DecidableEq, Repr

/-- A wait that is compiled to one JavaScript condition. -/
structure ScriptWait where
  parts : List Part := []
  flavor : AjaxFlavor := .jQuery
  diagnostics : Diagnostics := {}
  deferred : Option Failure := none

namespace ScriptWait

/-- The log statement of a clause, when scripts log to the console. -/
def log (diagnostics : Diagnostics) (name : String) (arguments : List String) (var : String) : String :=
  if diagnostics.scriptConsole then Fragment.logging name arguments var else ""

/-! ## Fragments -/

/-- Whether an element is found, compared with what is wanted. -/
def presence (diagnostics : Diagnostics) (name : String) (finder : Finder) (wanted : Bool) : Fragment where
  setup :=
    "var found = true; try \x7b selenium.browserbot.findElement('" ++ quote finder.rcLocator ++
      "'); \x7d catch (e) \x7b found = false; \x7d "
  log := log diagnostics name [finder.rcLocator] "found"
  result := "found == " ++ Fragment.literal wanted
  label := name ++ "(" ++ finder.rcLocator ++ ")"

/-- Whether an element is displayed, compared with what is wanted. -/
def visibility (diagnostics : Diagnostics) (name : String) (finder : Finder) (wanted : Bool) : Fragment where
  setup :=
    "var visible; try \x7b visible = selenium.isVisible('" ++ quote finder.rcLocator ++
      "'); \x7d catch (e) \x7b visible = false; \x7d "
  log := log diagnostics name [finder.rcLocator] "visible"
  result := "visible == " ++ Fragment.literal wanted
  label := name ++ "(" ++ finder.rcLocator ++ ")"

/-- The test of an element's attribute against a reference. -/
def attributeTest (property reference : String) : String :=
  "element." ++ property ++ " == '" ++ quote reference ++ "'"

/-- Whether an element is found and its attribute equals a reference. -/
def evaluation (diagnostics : Diagnostics) (finder : Finder) (property reference : String) : Fragment where
  setup :=
    "var element; try \x7b element = selenium.browserbot.findElement('" ++ quote finder.rcLocator ++
      "'); \x7d catch (e) \x7b element = null; \x7d var result = false; if (element !== null) result = " ++
      attributeTest property reference ++ "; "
  log := log diagnostics "evaluate_element" [finder.rcLocator, attributeTest property reference] "result"
  result := "result"
  label := "evaluate_element(" ++ finder.rcLocator ++ ", " ++ property ++ ", " ++ reference ++ ")"

/-- The value of an expression, kept in a variable. -/
def value (diagnostics : Diagnostics) (name var expression : String) : Fragment where
  setup := "var " ++ var ++ " = " ++ expression ++ "; "
  log := log diagnostics name [] var
  result := var
  label := name ++ "()"

/-- What a directive adds: a fragment, the OR, or the failure of a comparison that cannot run on the server. -/
def part (diagnostics : Diagnostics) (flavor : AjaxFlavor) : Directive → Except Failure Part
  | .elementPresent finder => .ok (.fragment (presence diagnostics "element_present" finder true))
  | .elementNotPresent finder => .ok (.fragment (presence diagnostics "element_not_present" finder false))
  | .elementVisible finder => .ok (.fragment (visibility diagnostics "element_visible" finder true))
  | .elementNotVisible finder => .ok (.fragment (visibility diagnostics "element_not_visible" finder false))
  | .evaluateElement _ _ _ (some _) => .error (.unsupportedPredicate "selenium")
  | .evaluateElement finder property reference none =>
    .ok (.fragment (evaluation diagnostics finder property reference))
  | .ajaxPending => .ok (.fragment (value diagnostics "ajax_pending" "pending" flavor.pending))
  | .ajaxComplete => .ok (.fragment (value diagnostics "ajax_complete" "complete" flavor.complete))
  | .pageLoading => .ok (.fragment (value diagnostics "page_loading" "value" PageScript.loading))
  | .pageReady => .ok (.fragment (value diagnostics "page_ready" "value" PageScript.ready))
  | .or => .ok .or

/-! ## Building -/

/-- The parts with one more; an OR is kept only behind a fragment. -/
def addPart (parts : List Part) : Part → List Part
  | .fragment fragment => parts ++ [.fragment fragment]
  | .or =>
    match parts.getLast? with
    | some (.fragment _) => parts ++ [.or]
    | _ => parts

/-- The wait with a failure kept, unless there is one already. -/
def fail (wait : ScriptWait) (failure : Failure) : ScriptWait :=
  { wait with deferred := wait.deferred.or (some failure) }

/-- The wait with one directive more. -/
def apply (wait : ScriptWait) (directive : Directive) : ScriptWait :=
  match part wait.diagnostics wait.flavor directive with
  | .ok part => { wait with parts := addPart wait.parts part }
  | .error failure => wait.fail failure

instance : WaitBuilder ScriptWait where
  apply := apply
  fail := fail
  deferred? := deferred

/-- Whether a part is a clause. -/
def isFragment : Part → Bool
  | .fragment _ => true
  | .or => false

/-- Whether no clause was added. -/
def isEmpty (wait : ScriptWait) : Bool := !wait.parts.any isFragment

/-! ## Compiling -/

/-- The texts of fragments behind the text so far, joined by `&&`, or by `||` behind an OR. -/
def joinOnto (textOf : Fragment → String) : (soFar : String) → (orPending : Bool) → List Part → String
  | soFar, _, [] => soFar
  | soFar, _, .or :: more => joinOnto textOf soFar true more
  | soFar, orPending, .fragment fragment :: more =>
    let operator := if soFar = "" then "" else if orPending then " || " else " && "
    joinOnto textOf (soFar ++ operator ++ textOf fragment) false more

/-- The readable form of a wait. -/
def describe (wait : ScriptWait) : String := joinOnto Fragment.label "" false wait.parts

/-- A text on one line. -/
def onOneLine (text : String) : String := text.map fun c => if c = '\n' then ' ' else c

/-- The JavaScript condition of a wait; a kept failure comes first. -/
def compile (wait : ScriptWait) : Except Failure String :=
  match wait.deferred with
  | some failure => .error failure
  | none => .ok (onOneLine (joinOnto Fragment.script "" false wait.parts))

end ScriptWait

end BrowserWait
