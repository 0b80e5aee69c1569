import BrowserWait.Proofs.SeleniumRc.Session
import Mathlib.Data.List.Nodup

/-!
# Reading forms back

What a driver makes of a form. Its keys are that of the command's name, the numbers of the arguments and that of the
session, none of them twice, so every argument is found under its number; and what is found tells the command again. Only
the commands to delete a cookie on no path and on the empty path have one form (`form_tells_command`).
-/

namespace BrowserWait.SeleniumRc.Command

/-! ## The keys of a form -/

/-- The numbers of a command's arguments. -/
def numbers (command : Command) : List String := (List.range' 1 command.arguments.length).map toString

/-- The keys of a command's form. -/
def keys (command : Command) : List String :=
  commandKey :: command.numbers ++ if command.requiresSession then [sessionKey] else []

theorem keys_numbered (first : Nat) (arguments : List String) :
    (numbered first arguments).map Prod.fst = (List.range' first arguments.length).map toString := by
  induction arguments generalizing first with
  | nil => rfl
  | cons argument more ih =>
    rw [numbered, List.map_cons, ih, List.length_cons, List.range'_succ, List.map_cons]

theorem keys_fields (command : Command) : command.fields.map Prod.fst = commandKey :: command.numbers := by
  rw [fields, List.map_cons, keys_numbered, numbers]

theorem not_mem_numbers {key : String} {c : Char} {rest : List Char} (spelled : key.toList = c :: rest)
    (noDigit : c.isDigit = false) (command : Command) : key ∉ command.numbers := by
  intro member
  obtain ⟨n, _, same⟩ := List.mem_map.mp member
  exact toString_ne spelled noDigit n same

theorem nodup_keys (command : Command) : command.keys.Nodup := by
  have numbers : command.numbers.Nodup := (List.nodup_range' 1).map fun _ _ => toString_inj
  have named : commandKey ∉ command.numbers := not_mem_numbers rfl rfl command
  have front : (commandKey :: command.numbers).Nodup := List.nodup_cons.mpr ⟨named, numbers⟩
  rw [keys]
  cases command.requiresSession with
  | false =>
    rw [if_neg Bool.false_ne_true, List.append_nil]
    exact front
  | true =>
    have addressed : sessionKey ∉ commandKey :: command.numbers := by
      rw [List.mem_cons, not_or]
      exact ⟨by decide, not_mem_numbers rfl rfl command⟩
    rw [if_pos rfl, List.nodup_middle, List.append_nil]
    exact List.nodup_cons.mpr ⟨addressed, front⟩

/-- A command that needs a session has no form without one, and else its form has the field it needs. -/
theorem form_cases (command : Command) (session : Option String) :
    (command.requiresSession = true ∧ session = none) ∧ command.form session = .error .noSession ∨
      ¬ (command.requiresSession = true ∧ session = none) ∧
        ∃ addressed : List (String × String),
          addressed.map Prod.fst = (if command.requiresSession then [sessionKey] else []) ∧
            command.form session = .ok (command.fields ++ addressed) := by
  cases requires : command.requiresSession with
  | false =>
    refine .inr ⟨fun needed => Bool.false_ne_true needed.1, [], rfl, ?_⟩
    rw [List.append_nil]
    exact if_neg (by rw [requires]; exact Bool.false_ne_true)
  | true =>
    cases session with
    | none => exact .inl ⟨⟨rfl, rfl⟩, if_pos requires⟩
    | some session =>
      refine .inr ⟨fun needed => ?_, [(sessionKey, session)], rfl, if_pos requires⟩
      cases needed.2

/-- Every argument is found under its number, and nothing under any other number. -/
theorem lookup_number (command : Command) {addressed : List (String × String)}
    (keyed : addressed.map Prod.fst = if command.requiresSession then [sessionKey] else []) (k : Nat) :
    (command.fields ++ addressed).lookup (toString (k + 1)) = command.arguments[k]? := by
  rw [Nat.add_comm, lookup_fields_append]
  -- the key behind the arguments is no number either
  have last : addressed.lookup (toString (1 + k)) = none := by
    rw [List.lookup_eq_none_iff]
    intro field member
    have among := List.mem_map_of_mem (f := Prod.fst) member
    rw [keyed] at among
    split at among
    · have other : toString (1 + k) ≠ sessionKey := toString_ne rfl rfl _
      rw [List.mem_singleton.mp among]
      exact bne_iff_ne.mpr other
    · cases among
  rw [last, Option.or_none]

/-! ## Reading back -/

/-- The command with a name and arguments; an empty path is as good as none. -/
def ofArguments? : (name : String) → (arguments : List String) → Option Command
  | "getNewBrowserSession", [browser, url, extensionJs, options] =>
    some (getNewBrowserSession browser url extensionJs options)
  | "testComplete", [] => some testComplete
  | "open", [url, _] => some (.open url)
  | "setTimeout", [ms] => (Text.digitsValue? ms.toList).map setTimeout
  | "waitForPageToLoad", [ms] => (Text.digitsValue? ms.toList).map waitForPageToLoad
  | "waitForCondition", [script, ms] => (Text.digitsValue? ms.toList).map (waitForCondition script)
  | "waitForElementPresent", [locator] => some (waitForElementPresent locator)
  | "waitForElementNotPresent", [locator] => some (waitForElementNotPresent locator)
  | "getHtmlSource", [] => some getHtmlSource
  | "getLocation", [] => some getLocation
  | "getEval", [script] => some (getEval script)
  | "getCookie", [] => some getCookie
  | "createCookie", [pair, options] => some (createCookie pair options)
  | "deleteCookie", [name, path] => some (deleteCookie name (some path))
  | "deleteAllVisibleCookies", [] => some deleteAllVisibleCookies
  | _, _ => none

/-- The command with its path written out. -/
def pathed : Command → Command
  | deleteCookie name path => deleteCookie name (some (path.getD ""))
  | command => command

theorem digitsValue?_toString (n : Nat) : Text.digitsValue? (toString n).toList = some n := by
  rw [← Text.numeral_eq_repr, String.toList_ofList, Text.digitsValue?_numeral]

theorem ofArguments?_command (command : Command) :
    ofArguments? command.name command.arguments = some command.pathed := by
  cases command with
  | setTimeout ms => exact congrArg (Option.map setTimeout) (digitsValue?_toString ms)
  | waitForPageToLoad ms => exact congrArg (Option.map waitForPageToLoad) (digitsValue?_toString ms)
  | waitForCondition script ms => exact congrArg (Option.map (waitForCondition script)) (digitsValue?_toString ms)
  | _ => rfl

/-- Two commands are the same, or delete a cookie one on no path and one on the empty path. -/
def Alike (a b : Command) : Prop :=
  a = b ∨ ∃ name, a = deleteCookie name none ∧ b = deleteCookie name (some "") ∨
    a = deleteCookie name (some "") ∧ b = deleteCookie name none

theorem pathed_cases (command : Command) : command.pathed = command ∨ ∃ name, command = deleteCookie name none := by
  cases command with
  | deleteCookie name path =>
    cases path with
    | none => exact .inr ⟨name, rfl⟩
    | some path => exact .inl rfl
  | _ => exact .inl rfl

theorem alike_of_pathed {a b : Command} (same : a.pathed = b.pathed) : a.Alike b := by
  rcases pathed_cases a with written | ⟨name, rfl⟩
  · rcases pathed_cases b with writtenToo | ⟨other, rfl⟩
    · exact .inl (written.symm.trans (same.trans writtenToo))
    · exact .inr ⟨other, .inr ⟨written.symm.trans same, rfl⟩⟩
  · rcases pathed_cases b with writtenToo | ⟨other, rfl⟩
    · exact .inr ⟨name, .inl ⟨rfl, writtenToo.symm.trans same.symm⟩⟩
    · cases same
      exact .inl rfl

theorem form_eq_of_alike {a b : Command} (alike : a.Alike b) (session : Option String) :
    a.form session = b.form session := by
  rcases alike with rfl | ⟨name, ⟨rfl, rfl⟩ | ⟨rfl, rfl⟩⟩
  · rfl
  · rfl
  · rfl

theorem alike_of_form {a b : Command} {session : Option String} {fields : List (String × String)}
    (formA : a.form session = .ok fields) (formB : b.form session = .ok fields) : a.Alike b := by
  rcases form_cases a session with ⟨_, refused⟩ | ⟨_, addressedA, keyedA, givenA⟩
  · cases refused.symm.trans formA
  rcases form_cases b session with ⟨_, refused⟩ | ⟨_, addressedB, keyedB, givenB⟩
  · cases refused.symm.trans formB
  have same : a.fields ++ addressedA = b.fields ++ addressedB :=
    Except.ok.inj (givenA.symm.trans (formA.trans (formB.symm.trans givenB)))
  -- the arguments are compared number by number, since the two commands may have different counts of them
  have name : a.name = b.name := congrArg Prod.snd (List.head_eq_of_cons_eq same)
  have arguments : a.arguments = b.arguments := by
    refine List.ext_getElem? fun k => ?_
    rw [← lookup_number a keyedA k, ← lookup_number b keyedB k, same]
  have read := ofArguments?_command a
  rw [name, arguments, ofArguments?_command b] at read
  exact alike_of_pathed (Option.some.inj read).symm

/-- Commands have one form exactly when they are alike and have a form at all, which takes a session unless the command
needs none. The keys of a form are that of the name, the numbers of the arguments and, for a command that needs a session,
that of the session; no key stands twice, and under a number stands the argument with that number, whatever its text. -/
theorem form_tells_command :
    (∀ (a b : Command) (session : Option String),
      (∃ fields, a.form session = .ok fields ∧ b.form session = .ok fields) ↔
        a.Alike b ∧ ¬ (a.requiresSession = true ∧ session = none)) ∧
    ∀ (command : Command) (driver : String) (session : Option String),
      (command.requiresSession = true ∧ session = none) ∧ command.form session = .error .noSession ∨
        ∃ fields, command.form session = .ok fields ∧
          command.request driver session = .ok { method := .post, url := driver, body := .form fields } ∧
          fields.map Prod.fst = command.keys ∧ command.keys.Nodup ∧
          ∀ k, Request.formField? { method := .post, url := driver, body := .form fields } (toString (k + 1)) =
            command.arguments[k]? := by
  constructor
  · intro a b session
    constructor
    · rintro ⟨fields, formA, formB⟩
      refine ⟨alike_of_form formA formB, fun needed => ?_⟩
      rcases form_cases a session with ⟨_, refused⟩ | ⟨free, _⟩
      · cases refused.symm.trans formA
      · exact free needed
    · rintro ⟨alike, free⟩
      rcases form_cases a session with ⟨needed, _⟩ | ⟨_, addressed, _, given⟩
      · exact absurd needed free
      · exact ⟨_, given, (form_eq_of_alike alike session).symm.trans given⟩
  · intro command driver session
    rcases form_cases command session with refused | ⟨_, addressed, keyed, given⟩
    · exact .inl refused
    · refine .inr ⟨_, given, ?_, ?_, nodup_keys command, lookup_number command keyed⟩
      · rw [request, given]
        rfl
      · rw [List.map_append, keys_fields, keyed, keys]

example : (waitForCondition "sessionId=1&2" 500).form (some "s") =
    .ok [("cmd", "waitForCondition"), ("1", "sessionId=1&2"), ("2", "500"), ("sessionId", "s")] := by decide

end BrowserWait.SeleniumRc.Command
