/-!
# Single-quoted literals

The body of a single-quoted literal: a backslash makes the next character stand for itself. Every text has a
body, reading that body gives the text back, and the body never closes the literal early.
-/

namespace BrowserWait.Text

/-- The body of the literal that denotes a text: a backslash before every backslash and every quote. -/
def quoted : List Char → List Char
  | [] => []
  | c :: text => if c = '\\' ∨ c = '\'' then '\\' :: c :: quoted text else c :: quoted text

/-- The text a literal's body denotes; none when a bare quote or an open escape makes it no body. -/
def unquoted? : List Char → Option (List Char)
  | [] => some []
  | ['\\'] => none
  | '\\' :: c :: text => (unquoted? text).map (c :: ·)
  | c :: text => if c = '\'' then none else (unquoted? text).map (c :: ·)

/-- Where neither kind of escape begins, there is no backslash. -/
theorem ne_escape {c : Char} {text : List Char} (lone : c = '\\' → text = [] → False)
    (escape : ∀ d rest, c = '\\' → text = d :: rest → False) : c ≠ '\\' := by
  intro same
  cases text with
  | nil => exact lone same rfl
  | cons d rest => exact escape d rest same rfl

@[simp] theorem quoted_nil : quoted [] = [] := rfl

theorem quoted_append (a b : List Char) : quoted (a ++ b) = quoted a ++ quoted b := by
  induction a with
  | nil => rfl
  | cons c a ih => by_cases special : c = '\\' ∨ c = '\'' <;> simp [quoted, special, ih]

theorem quoted_of_plain {text : List Char} (escape : '\\' ∉ text) (mark : '\'' ∉ text) : quoted text = text := by
  induction text with
  | nil => rfl
  | cons c text ih =>
    rw [List.mem_cons, not_or] at escape mark
    rw [quoted, if_neg (not_or.mpr ⟨Ne.symm escape.1, Ne.symm mark.1⟩), ih escape.2 mark.2]

/-- A body denotes the text it was made from, whatever follows it. -/
theorem unquoted?_quoted_append (text rest : List Char) :
    unquoted? (quoted text ++ rest) = (unquoted? rest).map (text ++ ·) := by
  induction text with
  | nil => simp
  | cons c text ih =>
    by_cases special : c = '\\' ∨ c = '\''
    · simp [quoted, special, unquoted?, ih, Function.comp_def]
    · simp only [not_or] at special
      rw [show quoted (c :: text) = c :: quoted text by simp [quoted, special]]
      simp [unquoted?, special, ih, Function.comp_def]

/-- A body denotes the text it was made from. -/
theorem unquoted?_quoted (text : List Char) : unquoted? (quoted text) = some text := by
  have whole := unquoted?_quoted_append text []
  simpa [unquoted?] using whole

end BrowserWait.Text

namespace BrowserWait

/-- The body of the single-quoted literal that denotes a text. -/
def quote (text : String) : String := String.ofList (Text.quoted text.toList)

@[simp] theorem toList_quote (text : String) : (quote text).toList = Text.quoted text.toList := String.toList_ofList

theorem quote_append (a b : String) : quote (a ++ b) = quote a ++ quote b := by
  rw [← String.toList_inj]
  simp [String.toList_append, Text.quoted_append]

/-- A text without backslashes and quotes is its own body. -/
theorem quote_of_plain {text : String} (escape : '\\' ∉ text.toList) (mark : '\'' ∉ text.toList) :
    quote text = text := by
  rw [← String.toList_inj, toList_quote, Text.quoted_of_plain escape mark]

end BrowserWait
