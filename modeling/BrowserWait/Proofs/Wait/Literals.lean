import BrowserWait.Proofs.Wait.Agreement

/-!
# Literals in scripts

A script read from left to right is code and single-quoted literals, in one way only. The texts that waits put into
their scripts stand in literals of their own, and are denoted by them on one line. The test of an attribute compares it
with exactly one text, the reference on one line (`attribute_compared_on_one_line`).
-/

namespace BrowserWait

namespace Text

/-- The body of the literal whose opening quote stands in front of a text, and what follows its closing quote. -/
def closed? : List Char → Option (List Char × List Char)
  | [] => none
  | ['\\'] => none
  | '\\' :: c :: text => (closed? text).map fun (body, rest) => ('\\' :: c :: body, rest)
  | c :: text => if c = '\'' then some ([], text) else (closed? text).map fun (body, rest) => (c :: body, rest)

theorem closed?_of_denotes {body text : List Char} (denotes : unquoted? body = some text) (rest : List Char) :
    closed? (body ++ '\'' :: rest) = some (body, rest) := by
  fun_induction unquoted? body generalizing text with
  | case1 => rfl
  | case2 => cases denotes
  | case3 c body ih =>
    obtain ⟨later, behind, _⟩ := Option.map_eq_some_iff.mp denotes
    rw [List.cons_append, List.cons_append, closed?, ih behind]
    rfl
  | case4 => cases denotes
  | case5 c body lone escape ordinary ih =>
    obtain ⟨later, behind, _⟩ := Option.map_eq_some_iff.mp denotes
    have noEscape := ne_escape lone escape
    rw [List.cons_append, closed?, if_neg ordinary, ih behind]
    · rfl
    · exact fun same => absurd same noEscape
    · exact fun _ _ same => absurd same noEscape

end Text

/-! ## Code and literals -/

namespace Script

/-- What a script is made of: stretches of code, each with the text that the literal behind it denotes, and the code
behind the last literal. -/
inductive Divided : (script : List Char) → (literals : List (List Char × List Char)) → (last : List Char) → Prop where
  | code {last : List Char} (bare : '\'' ∉ last) : Divided last [] last
  | literal {code body text rest last : List Char} {literals : List (List Char × List Char)} (bare : '\'' ∉ code)
    (denotes : Text.unquoted? body = some text) (behind : Divided rest literals last) :
    Divided (code ++ '\'' :: (body ++ '\'' :: rest)) ((code, text) :: literals) last

/-- A script divides into code and literals in one way. -/
theorem Divided.unique {script last otherLast : List Char} {literals others : List (List Char × List Char)}
    (divided : Divided script literals last) (other : Divided script others otherLast) :
    literals = others ∧ last = otherLast := by
  induction divided generalizing others with
  | @code last bare =>
    cases other with
    | code _ => exact ⟨rfl, rfl⟩
    | literal _ _ _ => exact absurd (by simp) bare
  | @literal code body text rest last literals bare denotes behind ih =>
    generalize whole : code ++ '\'' :: (body ++ '\'' :: rest) = script at other
    cases other with
    | code otherBare =>
      rw [← whole] at otherBare
      exact absurd (by simp) otherBare
    | @literal otherCode otherBody otherText otherRest _ others otherBare otherDenotes otherBehind =>
      have cut := Text.cut?_append bare (body ++ '\'' :: rest)
      rw [whole, Text.cut?_append otherBare] at cut
      obtain ⟨rfl, bodies⟩ := Prod.mk.inj (Option.some.inj cut)
      have closes := Text.closed?_of_denotes denotes rest
      rw [← bodies, Text.closed?_of_denotes otherDenotes] at closes
      obtain ⟨rfl, rfl⟩ := Prod.mk.inj (Option.some.inj closes)
      obtain rfl := Option.some.inj (denotes.symm.trans otherDenotes)
      obtain ⟨rfl, rfl⟩ := ih otherBehind
      exact ⟨rfl, rfl⟩

theorem Divided.quoted {code rest : String} {literals : List (List Char × List Char)} {last : List Char}
    (bare : '\'' ∉ code.toList) (text : String) (behind : Divided rest.toList literals last) :
    Divided (code ++ "'" ++ quote text ++ "'" ++ rest).toList ((code.toList, text.toList) :: literals) last := by
  have divided := Divided.literal bare (Text.unquoted?_quoted text.toList) behind
  simpa [String.toList_append] using divided

/-- A script compares a property of the element with a text: a literal of that text stands behind
`element.<property> == `. -/
def Compares (property value script : String) : Prop :=
  ∃ literals last code, Divided script.toList literals last ∧ (code, value.toList) ∈ literals ∧
    ("element." ++ property ++ " == ").toList <:+ code

end Script

/-! ## Quoted texts on one line -/

theorem quote_intercalate {separator : String} (plain : quote separator = separator) (texts : List String) :
    quote (separator.intercalate texts) = separator.intercalate (texts.map quote) := by
  induction texts with
  | nil => rfl
  | cons text texts ih =>
    cases texts with
    | nil => simp
    | cons next texts =>
      rw [String.intercalate_cons_cons, quote_append, quote_append, plain, ih]
      simp [String.intercalate_cons_cons]

namespace ScriptWait

theorem toList_onOneLine (text : String) :
    (onOneLine text).toList = text.toList.map fun c => if c = '\n' then ' ' else c := String.toList_map

theorem not_mem_onOneLine (text : String) : '\n' ∉ (onOneLine text).toList := by
  rw [toList_onOneLine, List.mem_map]
  rintro ⟨c, _, spaced⟩
  split at spaced
  · exact absurd spaced (by decide)
  · next other => exact other spaced

theorem onOneLine_eq_self_iff {text : String} : onOneLine text = text ↔ '\n' ∉ text.toList := by
  constructor
  · intro same
    rw [← same]
    exact not_mem_onOneLine text
  · intro line
    have kept : ∀ c ∈ text.toList, (if c = '\n' then ' ' else c) = c := by
      intro c member
      rw [if_neg]
      rintro rfl
      exact line member
    rw [← String.toList_inj, toList_onOneLine, List.map_congr_left kept, List.map_id']

/-- Putting a body on one line puts the text it denotes on one line. -/
theorem onOneLine_quote (text : String) : onOneLine (quote text) = quote (onOneLine text) := by
  rw [← String.toList_inj, toList_onOneLine, toList_quote, toList_quote, toList_onOneLine]
  induction text.toList with
  | nil => rfl
  | cons c text ih =>
    by_cases special : c = '\\' ∨ c = '\''
    · have kept : (if c = '\n' then ' ' else c) = c := by rcases special with rfl | rfl <;> decide
      rw [Text.quoted, if_pos special, List.map_cons, List.map_cons, List.map_cons, ih, kept, Text.quoted,
        if_pos special]
      rfl
    · have plain : ¬ ((if c = '\n' then ' ' else c) = '\\' ∨ (if c = '\n' then ' ' else c) = '\'') := by
        split
        · decide
        · exact special
      rw [Text.quoted, if_neg special, List.map_cons, List.map_cons, ih, Text.quoted, if_neg plain]

theorem onOneLine_literal {code : String} (line : '\n' ∉ code.toList) (text rest : String) :
    onOneLine (code ++ "'" ++ quote text ++ "'" ++ rest) =
      code ++ "'" ++ quote (onOneLine text) ++ "'" ++ onOneLine rest := by
  have mark : onOneLine "'" = "'" := onOneLine_eq_self_iff.mpr (by decide)
  simp only [onOneLine_append, onOneLine_quote, onOneLine_eq_self_iff.mpr line, mark]

end ScriptWait

/-- The log of a clause holds one literal, of the clause's name and arguments. -/
theorem Fragment.logging_eq (name : String) (arguments : List String) (var : String) :
    Fragment.logging name arguments var =
      "LOG.info(" ++ "'" ++ quote ("wait_for " ++ name ++ "(" ++ ", ".intercalate arguments ++ ")=") ++ "'" ++
        (" + " ++ var ++ "); ") := by
  have separator : quote ", " = ", " := quote_of_plain (by decide) (by decide)
  have front : quote "wait_for " = "wait_for " := quote_of_plain (by decide) (by decide)
  have opening : quote "(" = "(" := quote_of_plain (by decide) (by decide)
  have closing : quote ")=" = ")=" := quote_of_plain (by decide) (by decide)
  have lead : "LOG.info('wait_for " = "LOG.info(" ++ "'" ++ "wait_for " := rfl
  have link : ")=' + " = ")=" ++ "'" ++ " + " := rfl
  unfold logging
  rewrite [quote_append, quote_append, quote_append, quote_append, quote_intercalate separator, front, opening, closing,
    lead, link]
  simp only [String.append_assoc]

/-! ## The test of an attribute -/

namespace ScriptWait

/-- The code in front of the locator of an attribute's element. -/
def searching : String := "(function() \x7b " ++ "var element; try \x7b element = selenium.browserbot.findElement("

/-- The code between that locator and what the attribute is compared with. -/
def testing (property : String) : String :=
  "); \x7d catch (e) \x7b element = null; \x7d var result = false; if (element !== null) result = " ++
    ("element." ++ property ++ " == ")

/-- The code behind the test of an attribute, with its log. -/
def finishing (diagnostics : Diagnostics) (arguments : List String) : String :=
  "; " ++ log diagnostics "evaluate_element" arguments "result" ++ ("return " ++ "result" ++ "; \x7d)()")

/-- The text that the test of an attribute logs in front of its result. -/
def logged (arguments : List String) : String :=
  "wait_for " ++ "evaluate_element" ++ "(" ++ ", ".intercalate arguments ++ ")="

theorem finishing_eq (diagnostics : Diagnostics) (arguments : List String) :
    finishing diagnostics arguments =
      if diagnostics.scriptConsole then
        "; LOG.info(" ++ "'" ++ quote (logged arguments) ++ "'" ++ " + result); return result; \x7d)()"
      else "; return result; \x7d)()" := by
  rw [finishing, log]
  split
  · have lead : "; LOG.info(" = "; " ++ "LOG.info(" := rfl
    have close : " + result); return result; \x7d)()" =
        " + " ++ "result" ++ "); " ++ ("return " ++ "result" ++ "; \x7d)()") := rfl
    rewrite [Fragment.logging_eq, lead, close]
    simp only [String.append_assoc, logged]
  · rfl

section

variable (diagnostics : Diagnostics) (finder : Finder) {property : String} (reference : String)

theorem script_evaluation (property : String) :
    (evaluation diagnostics finder property reference).script =
      searching ++ "'" ++ quote finder.rcLocator ++ "'" ++ (testing property ++ "'" ++ quote reference ++ "'" ++
        finishing diagnostics [finder.rcLocator, attributeTest property reference]) := by
  -- the quotes around the texts are the ends of longer constants
  have lead : "var element; try \x7b element = selenium.browserbot.findElement('" =
      "var element; try \x7b element = selenium.browserbot.findElement(" ++ "'" := rfl
  have link : "'); \x7d catch (e) \x7b element = null; \x7d var result = false; if (element !== null) result = " =
      "'" ++ "); \x7d catch (e) \x7b element = null; \x7d var result = false; if (element !== null) result = " := rfl
  have test : " == '" = " == " ++ "'" := rfl
  unfold evaluation Fragment.script attributeTest searching testing finishing
  dsimp only
  rewrite [lead, link, test]
  simp only [String.append_assoc]

theorem divided_finishing (arguments : List String) :
    ∃ literals last, Script.Divided (onOneLine (finishing diagnostics arguments)).toList literals last ∧
      ∀ piece ∈ literals, piece.1.getLast? = some '(' := by
  rw [finishing_eq]
  split
  · have kept : onOneLine " + result); return result; \x7d)()" = " + result); return result; \x7d)()" :=
      onOneLine_eq_self_iff.mpr (by decide)
    rw [onOneLine_literal (by decide), kept]
    exact ⟨_, _, .quoted (by decide) _ (.code (by decide)), by simp⟩
  · rw [onOneLine_eq_self_iff.mpr (by decide)]
    exact ⟨[], _, .code (by decide), by simp⟩

theorem not_mem_testing {c : Char} (plain : c ∉ (testing "").toList) (other : c ∉ property.toList) :
    c ∉ (testing property).toList := by
  unfold testing at plain ⊢
  rw [String.toList_append, List.mem_append] at plain ⊢
  rw [String.toList_append, List.mem_append] at plain ⊢
  rw [String.toList_append, List.mem_append] at plain ⊢
  rw [not_or, not_or, not_or] at plain ⊢
  exact ⟨plain.1, ⟨plain.2.1.1, other⟩, plain.2.2⟩

theorem onOneLine_evaluation (line : '\n' ∉ property.toList) :
    onOneLine (evaluation diagnostics finder property reference).script =
      searching ++ "'" ++ quote (onOneLine finder.rcLocator) ++ "'" ++
        (testing property ++ "'" ++ quote (onOneLine reference) ++ "'" ++
          onOneLine (finishing diagnostics [finder.rcLocator, attributeTest property reference])) := by
  have search : '\n' ∉ searching.toList := by decide +kernel
  have test : '\n' ∉ (testing property).toList := not_mem_testing (by decide +kernel) line
  rw [script_evaluation, onOneLine_literal search, onOneLine_literal test]

/-- The compiled test of an attribute: its code, the texts that its first two literals denote, and a log that may hold
a third. -/
theorem divided_evaluation (bare : '\'' ∉ property.toList) (line : '\n' ∉ property.toList) :
    ∃ literals last,
      Script.Divided (onOneLine (evaluation diagnostics finder property reference).script).toList
          ((searching.toList, (onOneLine finder.rcLocator).toList) ::
            ((testing property).toList, (onOneLine reference).toList) :: literals) last ∧
        ∀ piece ∈ literals, piece.1.getLast? = some '(' := by
  obtain ⟨literals, last, divided, calls⟩ :=
    divided_finishing diagnostics [finder.rcLocator, attributeTest property reference]
  have search : '\'' ∉ searching.toList := by decide +kernel
  have test : '\'' ∉ (testing property).toList := not_mem_testing (by decide +kernel) bare
  refine ⟨literals, last, ?_, calls⟩
  rw [onOneLine_evaluation diagnostics finder reference line]
  exact .quoted search _ (.quoted test _ divided)

/-- The compiled test compares the attribute with one text only. -/
theorem compares_iff (bare : '\'' ∉ property.toList) (line : '\n' ∉ property.toList) (value : String) :
    Script.Compares property value (onOneLine (evaluation diagnostics finder property reference).script) ↔
      value = onOneLine reference := by
  obtain ⟨literals, last, divided, calls⟩ := divided_evaluation diagnostics finder reference bare line
  constructor
  · rintro ⟨pieces, final, code, other, member, front, rfl⟩
    obtain ⟨rfl, _⟩ := other.unique divided
    -- locators and logs are arguments of calls, so the code in front of them does not end in a comparison
    have noCall : (front ++ ("element." ++ property ++ " == ").toList).getLast? ≠ some '(' := by
      have last : " == ".toList.getLast? = some ' ' := by decide
      rw [String.toList_append, ← List.append_assoc, List.getLast?_append, last]
      simp
    rw [List.mem_cons, List.mem_cons] at member
    rcases member with search | test | log
    · rw [(Prod.mk.inj search).1] at noCall
      exact absurd (by decide) noCall
    · exact String.toList_inj.mp (Prod.mk.inj test).2
    · exact absurd (calls _ log) noCall
  · rintro rfl
    exact ⟨_, _, _, divided, List.mem_cons_of_mem _ List.mem_cons_self, _, String.toList_append.symm⟩

theorem onOneLine_finishing_congr {front reference other : String} (same : onOneLine other = onOneLine reference) :
    onOneLine (finishing diagnostics [front, attributeTest property other]) =
      onOneLine (finishing diagnostics [front, attributeTest property reference]) := by
  have logs : onOneLine (logged [front, attributeTest property other]) =
      onOneLine (logged [front, attributeTest property reference]) := by
    simp only [logged, attributeTest, String.intercalate_cons_cons, String.intercalate_singleton, onOneLine_append,
      onOneLine_quote, same]
  rw [finishing_eq, finishing_eq]
  split
  · rw [onOneLine_literal (by decide), onOneLine_literal (by decide), logs]
  · rfl

/-- The compiled test depends only on what its reference is on one line. -/
theorem onOneLine_evaluation_congr (line : '\n' ∉ property.toList) {reference other : String}
    (same : onOneLine other = onOneLine reference) :
    onOneLine (evaluation diagnostics finder property other).script =
      onOneLine (evaluation diagnostics finder property reference).script := by
  rw [onOneLine_evaluation diagnostics finder other line, onOneLine_evaluation diagnostics finder reference line, same,
    onOneLine_finishing_congr diagnostics same]

/-- A wait of one attribute test compiles to that test on one line. -/
theorem compile_evaluateElement (flavor : AjaxFlavor) (property : String) :
    compile (WaitBuilder.apply ({ diagnostics, flavor } : ScriptWait)
      (.evaluateElement finder property reference none)) =
      .ok (onOneLine (evaluation diagnostics finder property reference).script) := rfl

end

/-- The condition compiled from the test of an attribute compares the attribute with one text only, the reference on one
line; that is what the native clause does exactly when the reference has no line feed, and two references have one
condition exactly when they are the same on one line. The attribute is any without quotes and line feeds, as identifiers
are. -/
theorem attribute_compared_on_one_line (σ : Type) (diagnostics : Diagnostics) (flavor nativeFlavor : AjaxFlavor)
    (finder : Finder) {property : String} (bare : '\'' ∉ property.toList) (line : '\n' ∉ property.toList)
    (reference : String) :
    let test (reference : String) : Directive := .evaluateElement finder property reference none
    let compiled (reference : String) : Except Failure String :=
      (WaitBuilder.apply ({ diagnostics, flavor } : ScriptWait) (test reference)).compile
    ∃ script comparison, compiled reference = .ok script ∧
      NativeWait.clause? nativeFlavor (test reference) =
        some (.attributeHolds finder property reference comparison : Clause σ) ∧
      (∀ value, Script.Compares property value script ↔ value = onOneLine reference) ∧
      ((∀ value, Script.Compares property value script ↔ comparison.holds value reference = true) ↔
        '\n' ∉ reference.toList) ∧
      ∀ other, compiled other = .ok script ↔ onOneLine other = onOneLine reference := by
  intro test compiled
  have compiles (reference : String) : compiled reference =
      .ok (onOneLine (evaluation diagnostics finder property reference).script) :=
    compile_evaluateElement diagnostics finder reference flavor property
  have compares := compares_iff diagnostics finder reference bare line
  refine ⟨_, .equality, compiles reference, rfl, compares, ?_, fun other => ?_⟩
  · rw [← onOneLine_eq_self_iff]
    constructor
    · intro agree
      have itself : Comparison.equality.holds reference reference = true := beq_self_eq_true reference
      exact ((compares reference).mp ((agree reference).mpr itself)).symm
    · intro kept value
      rw [compares, kept]
      exact beq_iff_eq.symm
  · rw [compiles, Except.ok.injEq]
    constructor
    · intro same
      have compared := (compares (onOneLine reference)).mpr rfl
      rw [← same] at compared
      exact ((compares_iff diagnostics finder other bare line _).mp compared).symm
    · exact onOneLine_evaluation_congr diagnostics finder line

theorem attribute_compared_with_quote_and_backslash :
    let test (reference : String) : Directive := .evaluateElement (.selector "[name='q']") "value" reference none
    let compiled (reference : String) : Except Failure String :=
      (WaitBuilder.apply ({ diagnostics := { scriptConsole := true } } : ScriptWait) (test reference)).compile
    ∃ script comparison, compiled "it's\\" = .ok script ∧
      NativeWait.clause? .jQuery (test "it's\\") =
        some (.attributeHolds (.selector "[name='q']") "value" "it's\\" comparison : Clause Unit) ∧
      (∀ value, Script.Compares "value" value script ↔ value = onOneLine "it's\\") ∧
      ((∀ value, Script.Compares "value" value script ↔ comparison.holds value "it's\\" = true) ↔
        '\n' ∉ "it's\\".toList) ∧
      ∀ other, compiled other = .ok script ↔ onOneLine other = onOneLine "it's\\" :=
  attribute_compared_on_one_line Unit { scriptConsole := true } .jQuery .jQuery (.selector "[name='q']")
    (by decide) (by decide) "it's\\"

/-- A line feed and a space compile to one condition, which does not compare the attribute with the text of two
lines. -/
theorem line_feed_compared_as_space :
    let compiled (reference : String) : Except Failure String :=
      (WaitBuilder.apply ({} : ScriptWait) (.evaluateElement (.selector "#a") "value" reference none)).compile
    compiled "a\nb" = compiled "a b" ∧
      ∀ script, compiled "a\nb" = .ok script → ¬ Script.Compares "value" "a\nb" script := by
  intro compiled
  have compiles (reference : String) :
      compiled reference = .ok (onOneLine (evaluation {} (.selector "#a") "value" reference).script) :=
    compile_evaluateElement {} (.selector "#a") reference .jQuery "value"
  have spaced : onOneLine "a\nb" = onOneLine "a b" := by
    rw [← String.toList_inj, toList_onOneLine, toList_onOneLine]
    decide
  refine ⟨?_, fun script same compares => ?_⟩
  · rw [compiles, compiles, onOneLine_evaluation_congr {} (.selector "#a") (by decide) spaced]
  · obtain rfl := Except.ok.inj ((compiles "a\nb").symm.trans same)
    have kept := (compares_iff {} (.selector "#a") "a\nb" (by decide) (by decide) "a\nb").mp compares
    exact onOneLine_eq_self_iff.mp kept.symm (by decide)

end ScriptWait

end BrowserWait
