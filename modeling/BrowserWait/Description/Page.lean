import BrowserWait.Description.Failure
import BrowserWait.Page.Model

/-!
# Described pages

A page model given by what is on the page. Hidden elements are on the page as well.
-/

namespace BrowserWait.Description

/-- An attribute of an element: a list of the element's locator text, the attribute's name and its value. -/
def pageAttribute : Json → Option ((String × String) × String)
  | .array [element, name, value] => do return ((← read? element, ← read? name), ← read? value)
  | _ => none

instance : Described PageModel where
  read? spec := do
    let hidden ← field spec "hidden"
    return {
      elements := (← field spec "elements") ++ hidden
      hidden
      appearFrom := ← members spec "after"
      lookupFailures := ← members spec "lookup_errors"
      attributes := Table.ofEntries (← (← items spec "attributes").mapM pageAttribute)
      scriptResults := ← members spec "scripts"
      ajaxActive := ← field spec "ajax"
      marked := ← field spec "marked"
      source := ← text spec "source"
      timeout := ← fieldOr defaultTimeout spec "timeout" }

/-- The page a record starts from. -/
def page (record : Json) : Option PageModel := fieldOr {} record "browser"

end BrowserWait.Description
