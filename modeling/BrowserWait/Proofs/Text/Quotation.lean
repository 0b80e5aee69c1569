import BrowserWait.Text.Quoted
import Mathlib.Data.List.Basic

/-!
# Quotation

Quoting a text escapes its backslashes first and its quotes then, where the second pass leaves alone what the first one
put there. The result is read from left to right as the body of a literal: no quote in it is bare, no escape is left
open at its end, and it gives back exactly the text. So texts that are quoted one by one may stand in one literal, with
plain text between them (`quote_is_read_back`).
-/

namespace BrowserWait

namespace Text

/-! ## Reading a literal -/

/-- A character that is read in a literal, and whether it escapes the next one; a bare quote is none of the body. -/
def readChar (escaped : Bool) (c : Char) : Option Bool :=
  if escaped then some false else if c = '\'' then none else some (c = '\\')

/-- Whether the end of a body is escaped, if no bare quote comes before it. -/
def scan (body : List Char) : Option Bool := body.foldlM readChar false

theorem scan_append (front back : List Char) :
    scan (front ++ back) = (scan front).bind fun escaped => back.foldlM readChar escaped := by
  rw [scan, List.foldlM_append]
  rfl

/-- A body denotes a text exactly when the scan gets to its end, and that is not escaped. -/
theorem isSome_unquoted?_iff (body : List Char) : (unquoted? body).isSome = true ↔ scan body = some false := by
  fun_induction unquoted? body with
  | case1 => simp [scan]
  | case2 => simp [scan, readChar]
  | case3 c body ih => simpa [scan, readChar] using ih
  | case4 body lone escape => simp [scan, readChar]
  | case5 c body lone escape ordinary ih =>
    have noEscape := ne_escape lone escape
    simpa [scan, readChar, ordinary, noEscape] using ih

/-- Where a scan gets behind a quote, that quote is escaped. -/
theorem escaped_of_scan {front back : List Char} {last : Bool} (scans : scan (front ++ '\'' :: back) = some last) :
    scan front = some true := by
  rw [scan_append] at scans
  obtain ⟨escaped, before, behind⟩ := Option.bind_eq_some_iff.mp scans
  cases escaped with
  | true => exact before
  | false => simp [readChar] at behind

/-! ## Quoting -/

/-- A text with another one in place of each of a character's occurrences. -/
def replaced (mark : Char) (other text : List Char) : List Char :=
  text.flatMap fun c => if c = mark then other else [c]

theorem replaced_cons (mark c : Char) (other text : List Char) :
    replaced mark other (c :: text) = (if c = mark then other else [c]) ++ replaced mark other text :=
  List.flatMap_cons

/-- Quoting in two passes, first of backslashes and then of quotes. -/
theorem quoted_eq_replaced (text : List Char) :
    quoted text = replaced '\'' ['\\', '\''] (replaced '\\' ['\\', '\\'] text) := by
  induction text with
  | nil => rfl
  | cons c text ih =>
    rw [replaced_cons]
    by_cases escape : c = '\\'
    · subst escape
      simp [quoted, ih, replaced_cons]
    · by_cases mark : c = '\''
      · subst mark
        simp [quoted, ih, replaced_cons]
      · simp [quoted, ih, replaced_cons, escape, mark]

theorem quoted_injective {text other : List Char} (same : quoted text = quoted other) : text = other := by
  have read := unquoted?_quoted text
  rw [same, unquoted?_quoted] at read
  exact (Option.some.inj read).symm

/-- No character of a text is escaped when it is quoted. -/
def Plain (text : List Char) : Prop := '\\' ∉ text ∧ '\'' ∉ text

instance (text : List Char) : Decidable (Plain text) := inferInstanceAs (Decidable (_ ∧ _))

end Text

open Text

theorem quote_injective {text other : String} (same : quote text = quote other) : text = other := by
  refine String.toList_inj.mp (quoted_injective ?_)
  rw [← toList_quote, same, toList_quote]

/-- Quoted texts with plain ones behind them are the quoted whole. -/
theorem flatMap_quote {pieces : List (String × String)} (plain : ∀ piece ∈ pieces, Plain piece.2.toList) :
    (pieces.flatMap fun piece => (quote piece.1 ++ piece.2).toList) =
      quoted (pieces.flatMap fun piece => (piece.1 ++ piece.2).toList) := by
  induction pieces with
  | nil => rfl
  | cons piece pieces ih =>
    -- plain text is its own quotation, so the piece as a whole is quoted
    obtain ⟨escape, mark⟩ := plain piece List.mem_cons_self
    have here : (quote piece.1 ++ piece.2).toList = quoted (piece.1 ++ piece.2).toList := by
      rw [String.toList_append, String.toList_append, quoted_append, toList_quote, quoted_of_plain escape mark]
    rw [List.flatMap_cons, List.flatMap_cons, quoted_append, here,
      ih fun later member => plain later (List.mem_cons_of_mem _ member)]

/-- A text is quoted in two passes, and is read back as the body of a literal, where a backslash escapes the next
character: every quote in it is escaped, its end is not, and it denotes exactly the text. Hence no two texts are quoted
alike. What stands behind a quoted text is read as if it stood alone; so texts that are quoted one by one, with texts
that hold neither a backslash nor a quote between them, denote together what each of them denotes alone. -/
theorem quote_is_read_back (text : String) :
    (quote text).toList = replaced '\'' ['\\', '\''] (replaced '\\' ['\\', '\\'] text.toList) ∧
      (∀ front back, (quote text).toList = front ++ '\'' :: back → scan front = some true) ∧
      scan (quote text).toList = some false ∧
      unquoted? (quote text).toList = some text.toList ∧
      (∀ other, quote text = quote other ↔ text = other) ∧
      (∀ rest, unquoted? ((quote text).toList ++ rest) = (unquoted? rest).map (text.toList ++ ·)) ∧
      ∀ pieces : List (String × String), (∀ piece ∈ pieces, Plain piece.2.toList) →
        unquoted? (pieces.flatMap fun piece => (quote piece.1 ++ piece.2).toList) =
          some (pieces.flatMap fun piece => (piece.1 ++ piece.2).toList) := by
  have scans : scan (quote text).toList = some false := by
    rw [toList_quote, ← isSome_unquoted?_iff, unquoted?_quoted]
    rfl
  refine ⟨?_, fun front back split => ?_, scans, ?_, fun other => ⟨quote_injective, congrArg quote⟩, fun rest => ?_,
    fun pieces plain => ?_⟩
  · rw [toList_quote, quoted_eq_replaced]
  · rw [split] at scans
    exact escaped_of_scan scans
  · rw [toList_quote, unquoted?_quoted]
  · rw [toList_quote, unquoted?_quoted_append]
  · rw [flatMap_quote plain, unquoted?_quoted]

/-- A backslash in front of the separator and a quote behind it stay what they are. -/
theorem quoted_pair_read_back :
    unquoted? ([("back\\", ", "), ("it's", "")].flatMap fun piece => (quote piece.1 ++ piece.2).toList) =
      some "back\\, it's".toList := by
  obtain ⟨_, _, _, _, _, _, together⟩ := quote_is_read_back "back\\"
  exact together [("back\\", ", "), ("it's", "")] (by decide)

end BrowserWait
