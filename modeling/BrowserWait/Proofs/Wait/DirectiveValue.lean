import BrowserWait.Proofs.Element.FinderValue
import BrowserWait.Proofs.Wait.Agreement
import Mathlib.Data.List.Basic

/-!
# Directives and the values they are written in

A directive is written as a list: its name, and as many arguments as go with the name. Of what can be wrong the name
counts before the number of arguments, and that number before the finder among them. `directive_values` says which
values are directives, what a directive takes from its arguments, under which failure any other value is refused, and
that no argument is asked for that is not there.
-/

namespace BrowserWait

namespace Directive

/-! ## The vocabulary -/

/-- The directives with an element as their only argument, by name. -/
def onElement : List (String × (Finder → Directive)) :=
  [("element_present", elementPresent), ("element_not_present", elementNotPresent),
    ("element_visible", elementVisible), ("element_not_visible", elementNotVisible)]

/-- The directives without arguments, by name. -/
def bare : List (String × Directive) :=
  [("ajax_pending", ajaxPending), ("ajax_complete", ajaxComplete), ("page_loading", pageLoading),
    ("page_ready", pageReady), ("or_", or), ("or", or)]

/-- Every name, with the number of arguments that go with it. -/
def vocabulary : List (String × Nat) :=
  onElement.map (fun entry => (entry.1, 1)) ++ ("evaluate_element", 3) :: bare.map fun entry => (entry.1, 0)

/-- The text an argument gives: a string is its own, any other value is written in JSON. -/
inductive Gives : Json → String → Prop where
  | string (text : String) : Gives (.string text) text
  | written {value : Json} (other : ∀ text, value ≠ .string text) : Gives value value.compact

/-- The directives that a name and its arguments write down. -/
inductive Writes : String → List Json → Directive → Prop where
  | onElement {name : String} {make : Finder → Directive} {target : Json} {finder : Finder}
    (named : (name, make) ∈ onElement) (read : Finder.ofJson target = .ok finder) : Writes name [target] (make finder)
  | evaluateElement {target property reference : Json} {finder : Finder} {key text : String}
    (read : Finder.ofJson target = .ok finder) (named : Gives property key) (compared : Gives reference text) :
    Writes "evaluate_element" [target, property, reference] (.evaluateElement finder key text none)
  | bare {name : String} {directive : Directive} (named : (name, directive) ∈ bare) : Writes name [] directive

/-- Why a name and its arguments write down no directive. -/
inductive Miswrites : String → List Json → Failure → Prop where
  | unknown {name : String} {arguments : List Json} (unknown : ∀ count, (name, count) ∉ vocabulary) :
    Miswrites name arguments (.unknownDirective name)
  | miscounted {name : String} {arguments : List Json} {count : Nat} (known : (name, count) ∈ vocabulary)
    (differ : arguments.length ≠ count) :
    Miswrites name arguments
      (.invalidCondition (name ++ " takes " ++ toString count ++ " argument(s), got " ++ toString arguments.length))
  | lost {name : String} {target : Json} {more : List Json} (known : (name, more.length + 1) ∈ vocabulary)
    (lost : ∀ finder, Finder.ofJson target ≠ .ok finder) :
    Miswrites name (target :: more) (.unknownElement target.compact)

theorem gives_iff {value : Json} {text : String} : Gives value text ↔ value.plainText = text := by
  constructor
  · rintro (text | other)
    · rfl
    · unfold Json.plainText
      split
      · exact absurd rfl (other _)
      · rfl
  · rintro rfl
    cases value with
    | string text => exact .string text
    | _ => exact .written nofun

theorem mem_vocabulary {name : String} {count : Nat} (known : (name, count) ∈ vocabulary) :
    (count = 1 ∧ ∃ make, (name, make) ∈ onElement) ∨ (count = 3 ∧ name = "evaluate_element") ∨
      (count = 0 ∧ ∃ directive, (name, directive) ∈ bare) := by
  rw [vocabulary, List.mem_append, List.mem_cons, List.mem_map, List.mem_map] at known
  rcases known with ⟨⟨_, make⟩, named, same⟩ | evaluate | ⟨⟨_, directive⟩, named, same⟩
  · obtain ⟨rfl, rfl⟩ := Prod.mk.inj same
    exact .inl ⟨rfl, make, named⟩
  · obtain ⟨rfl, rfl⟩ := Prod.mk.inj evaluate
    exact .inr (.inl ⟨rfl, rfl⟩)
  · obtain ⟨rfl, rfl⟩ := Prod.mk.inj same
    exact .inr (.inr ⟨rfl, directive, named⟩)

/-- A name and its arguments write down a directive, or there is a reason why they do not. -/
theorem writes_or_miswrites (name : String) (arguments : List Json) :
    (∃ directive, Writes name arguments directive) ∨ ∃ failure, Miswrites name arguments failure := by
  by_cases known : ∃ count, (name, count) ∈ vocabulary
  · obtain ⟨count, known⟩ := known
    by_cases differ : arguments.length = count
    · subst differ
      cases arguments with
      | nil =>
        rcases mem_vocabulary known with ⟨count, _⟩ | ⟨count, _⟩ | ⟨_, directive, named⟩
        · cases count
        · cases count
        · exact .inl ⟨directive, .bare named⟩
      | cons target more =>
        by_cases read : ∃ finder, Finder.ofJson target = .ok finder
        · obtain ⟨finder, read⟩ := read
          rcases mem_vocabulary known with ⟨count, make, named⟩ | ⟨count, rfl⟩ | ⟨count, _⟩
          · obtain rfl : more = [] := by simpa using count
            exact .inl ⟨make finder, .onElement named read⟩
          · obtain ⟨property, reference, rfl⟩ : ∃ property reference, more = [property, reference] := by
              rw [List.length_cons, Nat.add_right_cancel_iff, List.length_eq_two] at count
              exact count
            exact .inl ⟨_, .evaluateElement read (gives_iff.mpr rfl) (gives_iff.mpr rfl)⟩
          · cases count
        · exact .inr ⟨_, .lost known (not_exists.mp read)⟩
    · exact .inr ⟨_, .miscounted known differ⟩
  · exact .inr ⟨_, .unknown (not_exists.mp known)⟩

/-! ## Fetching arguments -/

/-- The directive of a verb whose arguments are fetched by their positions; none when one is asked for that is not
there. -/
def fetch? (arguments : List Json) : Verb → Option (Except Failure Directive)
  | .elementPresent => fetchElement? elementPresent
  | .elementNotPresent => fetchElement? elementNotPresent
  | .elementVisible => fetchElement? elementVisible
  | .elementNotVisible => fetchElement? elementNotVisible
  | .evaluateElement => do
    let target ← arguments[0]?
    let property ← arguments[1]?
    let reference ← arguments[2]?
    return (evaluateElement · property.plainText reference.plainText none) <$> Finder.ofJson target
  | .ajaxPending => some (.ok ajaxPending)
  | .ajaxComplete => some (.ok ajaxComplete)
  | .pageLoading => some (.ok pageLoading)
  | .pageReady => some (.ok pageReady)
  | .or => some (.ok or)
where
  fetchElement? (make : Finder → Directive) : Option (Except Failure Directive) :=
    arguments[0]?.map fun target => make <$> Finder.ofJson target

/-- The directive of a name and its arguments, which are counted before one of them is fetched. -/
def counted? (name : String) (arguments : List Json) : Option (Except Failure Directive) :=
  match Verb.ofName? name with
  | none => some (.error (.unknownDirective name))
  | some verb =>
    if arguments.length = verb.arity then fetch? arguments verb
    else some (.error (wrongCount name verb.arity arguments.length))

/-- No argument is asked for that is not there. -/
theorem counted?_eq (name : String) (arguments : List Json) :
    counted? name arguments = some (ofArguments name arguments) := by
  unfold counted?
  cases named : Verb.ofName? name with
  | none => simp [ofArguments, named]
  | some verb =>
    -- no verb takes more than three arguments
    rcases arguments with _ | ⟨target, _ | ⟨property, _ | ⟨reference, _ | ⟨more, rest⟩⟩⟩⟩ <;>
      cases verb <;> simp [ofArguments, named, Verb.arity, fetch?, fetch?.fetchElement?]

theorem ofArguments_counted {name : String} {arguments : List Json} {verb : Verb}
    (named : Verb.ofName? name = some verb) (count : arguments.length = verb.arity) :
    fetch? arguments verb = some (ofArguments name arguments) := by
  rw [← counted?_eq, counted?, named]
  exact (if_pos count).symm

/-! ## Reading a name and its arguments -/

theorem ofName?_of_mem {name : String} {count : Nat} (known : (name, count) ∈ vocabulary) :
    ∃ verb, Verb.ofName? name = some verb ∧ verb.arity = count := by
  have table : ∀ entry ∈ vocabulary, ∃ verb ∈ Verb.all, Verb.ofName? entry.1 = some verb ∧ verb.arity = entry.2 := by
    decide
  obtain ⟨verb, _, named, arity⟩ := table (name, count) known
  exact ⟨verb, named, arity⟩

theorem mem_of_ofName? {name : String} {verb : Verb} (named : Verb.ofName? name = some verb) :
    (name, verb.arity) ∈ vocabulary := by
  rw [Verb.ofName?] at named
  split at named
  · next second =>
    cases named
    subst second
    decide
  · have same := List.find?_some named
    obtain rfl : verb.name = name := by simpa using same
    cases verb <;> decide

theorem ofArguments_of_writes {name : String} {arguments : List Json} {directive : Directive}
    (writes : Writes name arguments directive) : ofArguments name arguments = .ok directive := by
  cases writes with
  | @onElement _ make target finder named read =>
    have each : ∀ entry ∈ Directive.onElement, ofArguments entry.1 [target] = entry.2 <$> Finder.ofJson target := by
      simp only [Directive.onElement, List.mem_cons, List.not_mem_nil, or_false, forall_eq_or_imp, forall_eq]
      exact ⟨rfl, rfl, rfl, rfl⟩
    rw [each _ named, read]
    rfl
  | evaluateElement read named compared =>
    have known : Verb.ofName? "evaluate_element" = some .evaluateElement := Verb.ofName?_name .evaluateElement
    simp [ofArguments, known, read, gives_iff.mp named, gives_iff.mp compared]
  | bare named =>
    have each : ∀ entry ∈ Directive.bare, ofArguments entry.1 [] = .ok entry.2 := by
      simp only [Directive.bare, List.mem_cons, List.not_mem_nil, or_false, forall_eq_or_imp, forall_eq]
      exact ⟨rfl, rfl, rfl, rfl, rfl, rfl⟩
    exact each _ named

theorem ofArguments_of_miswrites {name : String} {arguments : List Json} {failure : Failure}
    (miswrites : Miswrites name arguments failure) : ofArguments name arguments = .error failure := by
  cases miswrites with
  | unknown unknown =>
    have unnamed : Verb.ofName? name = none := by
      rw [Option.eq_none_iff_forall_ne_some]
      intro verb named
      exact unknown _ (mem_of_ofName? named)
    simp [ofArguments, unnamed]
  | miscounted known differ =>
    obtain ⟨verb, named, rfl⟩ := ofName?_of_mem known
    have counted := counted?_eq name arguments
    simp only [counted?, named, if_neg differ] at counted
    exact (Option.some.inj counted).symm
  | @lost target more known lost =>
    -- name and number are right here, so the finder is all that is left to go wrong
    have refused := (Finder.ofJson_cases target).resolve_left (not_exists.mpr lost)
    obtain ⟨verb, named, arity⟩ := ofName?_of_mem known
    have count : (target :: more).length = verb.arity := arity.symm
    have counted := ofArguments_counted named count
    apply Option.some.inj
    rw [← counted]
    cases verb with
    | evaluateElement =>
      obtain ⟨property, reference, rfl⟩ : ∃ property reference, more = [property, reference] := by
        simpa [Verb.arity, List.length_eq_two, eq_comm] using arity
      simp [fetch?, refused]
    | _ => simp_all [fetch?, fetch?.fetchElement?, Verb.arity]

theorem ofArguments_eq_ok_iff (name : String) (arguments : List Json) (directive : Directive) :
    ofArguments name arguments = .ok directive ↔ Writes name arguments directive := by
  refine ⟨fun read => ?_, ofArguments_of_writes⟩
  rcases writes_or_miswrites name arguments with ⟨written, writes⟩ | ⟨failure, miswrites⟩
  · obtain rfl := Except.ok.inj ((ofArguments_of_writes writes).symm.trans read)
    exact writes
  · cases (ofArguments_of_miswrites miswrites).symm.trans read

theorem ofArguments_eq_error_iff (name : String) (arguments : List Json) (failure : Failure) :
    ofArguments name arguments = .error failure ↔ Miswrites name arguments failure := by
  refine ⟨fun read => ?_, ofArguments_of_miswrites⟩
  rcases writes_or_miswrites name arguments with ⟨written, writes⟩ | ⟨reason, miswrites⟩
  · cases (ofArguments_of_writes writes).symm.trans read
  · obtain rfl := Except.error.inj ((ofArguments_of_miswrites miswrites).symm.trans read)
    exact miswrites

theorem Writes.name_eq {name : String} {arguments : List Json} {directive : Directive}
    (writes : Writes name arguments directive) : directive.name = if name = "or" then "or_" else name := by
  cases writes with
  | @onElement _ make target finder named read =>
    have each : ∀ entry ∈ Directive.onElement, (entry.2 finder).name = if entry.1 = "or" then "or_" else entry.1 := by
      simp [Directive.onElement, Directive.name, verb, Verb.name]
    exact each _ named
  | evaluateElement => rfl
  | bare named =>
    have each : ∀ entry ∈ Directive.bare, entry.2.name = if entry.1 = "or" then "or_" else entry.1 := by
      simp [Directive.bare, Directive.name, verb, Verb.name]
    exact each _ named

theorem Writes.comparison?_eq {name : String} {arguments : List Json} {directive : Directive}
    (writes : Writes name arguments directive) : directive.comparison? = none := by
  cases writes with
  | @onElement _ make target finder named read =>
    have each : ∀ entry ∈ Directive.onElement, (entry.2 finder).comparison? = none := by
      simp [Directive.onElement, comparison?]
    exact each _ named
  | evaluateElement => rfl
  | bare named =>
    have each : ∀ entry ∈ Directive.bare, entry.2.comparison? = none := by
      simp [Directive.bare, comparison?]
    exact each _ named

/-! ## Reading lists -/

theorem ofJson_of_unheaded {value : Json} (unheaded : ∀ name arguments, value ≠ .array (.string name :: arguments)) :
    ofJson value = .error (.invalidCondition value.compact) := by
  unfold ofJson
  split
  · exact absurd rfl (unheaded _ _)
  · rfl

theorem ofJson_eq_ok_iff (value : Json) (directive : Directive) :
    ofJson value = .ok directive ↔
      ∃ name arguments, value = .array (.string name :: arguments) ∧ Writes name arguments directive := by
  simp only [← ofArguments_eq_ok_iff]
  constructor
  · intro read
    by_cases headed : ∃ name arguments, value = .array (.string name :: arguments)
    · obtain ⟨name, arguments, rfl⟩ := headed
      exact ⟨name, arguments, rfl, read⟩
    · simp only [not_exists] at headed
      cases (ofJson_of_unheaded headed).symm.trans read
  · rintro ⟨name, arguments, rfl, read⟩
    exact read

/-- A list that is read as a directive brings no comparison of its own. -/
theorem comparison?_of_ofJson {value : Json} {directive : Directive} (read : ofJson value = .ok directive) :
    directive.comparison? = none := by
  obtain ⟨_, _, _, writes⟩ := (ofJson_eq_ok_iff value directive).mp read
  exact writes.comparison?_eq

theorem ofJson_eq_error_iff (value : Json) (failure : Failure) :
    ofJson value = .error failure ↔
      ((∀ name arguments, value ≠ .array (.string name :: arguments)) ∧ failure = .invalidCondition value.compact) ∨
        ∃ name arguments, value = .array (.string name :: arguments) ∧ Miswrites name arguments failure := by
  simp only [← ofArguments_eq_error_iff]
  by_cases headed : ∃ name arguments, value = .array (.string name :: arguments)
  · obtain ⟨name, arguments, rfl⟩ := headed
    simp [ofJson]
  · simp only [not_exists] at headed
    rw [ofJson_of_unheaded headed]
    simp [headed, eq_comm]

/-- A value is read as a directive exactly when it is a list of a name and the arguments that go with it: the directive
has that name, or the first of its two, keeps the finder and the texts of the arguments, and compares by equality. Any
other value is refused for what is wrong with it first. No argument is fetched that is not there. -/
theorem directive_values :
    (∀ value directive, ofJson value = .ok directive ↔
      ∃ name arguments, value = .array (.string name :: arguments) ∧ Writes name arguments directive ∧
        directive.name = (if name = "or" then "or_" else name) ∧ directive.comparison? = none) ∧
      (∀ value failure, ofJson value = .error failure ↔
        ((∀ name arguments, value ≠ .array (.string name :: arguments)) ∧
            failure = .invalidCondition value.compact) ∨
          ∃ name arguments, value = .array (.string name :: arguments) ∧ Miswrites name arguments failure) ∧
      ∀ name arguments, counted? name arguments = some (ofArguments name arguments) := by
  refine ⟨fun value directive => ?_, ofJson_eq_error_iff, counted?_eq⟩
  rw [ofJson_eq_ok_iff]
  constructor
  · rintro ⟨name, arguments, rfl, writes⟩
    exact ⟨name, arguments, rfl, writes, writes.name_eq, writes.comparison?_eq⟩
  · rintro ⟨name, arguments, rfl, writes, _⟩
    exact ⟨name, arguments, rfl, writes⟩

end Directive

end BrowserWait
