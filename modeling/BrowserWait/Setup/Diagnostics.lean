import BrowserWait.Document.Node

/-!
# Diagnostics

The two switches for diagnostic output, and the formats a log can have.
-/

namespace BrowserWait

/-- Which diagnostic output a wait gives. -/
structure Diagnostics where
  /-- Every tick of a wait is logged prominently. -/
  traceTicks : Bool := false
  /-- Compiled scripts log to the server's console. -/
  scriptConsole : Bool := false
deriving DecidableEq, Repr, Inhabited

namespace Diagnostics

/-- All output. -/
def verbose : Diagnostics := ⟨true, true⟩

/-- Reads the switches from a document; each is off unless given. -/
def ofNode? {ν : Type} [Node ν] (node : ν) : Option Diagnostics := do
  let fields ← Node.fields? node
  guard (fields.fits 2)
  return {
    traceTicks := ← fields.orDefault false Node.flag? 0 ["trace_ticks"]
    scriptConsole := ← fields.orDefault false Node.flag? 1 ["script_console"] }

/-- The switches as a document. -/
def json (diagnostics : Diagnostics) : Json :=
  .ofMembers [("trace_ticks", .bool diagnostics.traceTicks), ("script_console", .bool diagnostics.scriptConsole)]

end Diagnostics

/-- How a log is written. -/
inductive LogFormat where
  /-- One line of text per event. -/
  | compact
  /-- One JSON object per event. -/
  | json
deriving DecidableEq, Repr

namespace LogFormat

/-- The format of a name, in any ASCII case; all but one name stand for the compact one. -/
def ofText (text : String) : LogFormat := if text.map Char.toLower = "json" then json else compact

/-- What is logged unless told otherwise. -/
def defaultFilter : String := "probar_remote=info,warn"

end LogFormat

end BrowserWait
