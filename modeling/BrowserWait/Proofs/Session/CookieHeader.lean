import BrowserWait.Session.Cookie

/-!
# Headers of cookies

A header is read piece by piece between its semicolons, and what is written with quotes around every value is read back
as it was (`headers_read_back`).
-/

namespace BrowserWait

namespace Text

theorem trim_cons_blank {c : Char} (blank : isBlank c = true) (text : List Char) : trim (c :: text) = trim text := by
  rw [trim, trimStart, List.dropWhile_cons_of_pos blank]
  rfl

/-- A text is trimmed that starts like a trimmed one, if it is not empty, and ends with no blank. -/
theorem trimmed_append {front : List Char} {c d : Char} (trimmed : Trimmed front) (starts : isBlank c = false)
    (ends : isBlank d = false) (inner : List Char) : Trimmed (front ++ c :: inner ++ [d]) := by
  constructor
  · intro first head
    cases front with
    | nil =>
      obtain rfl : c = first := by simpa using head
      exact starts
    | cons b front => exact trimmed.1 first (by simpa using head)
  · intro last tail
    rw [List.getLast?_concat] at tail
    obtain rfl : d = last := Option.some.inj tail
    exact ends

end Text

namespace Cookie

theorem ofHeader_eq (text : String) :
    ofHeader text = (Text.pieces ';' text.toList).filterMap fun piece => ofPiece? (Text.trim piece) := rfl

/-- A header is read piece by piece. -/
theorem ofHeader_append (front rest : String) : ofHeader (front ++ ";" ++ rest) = ofHeader front ++ ofHeader rest := by
  have whole : (front ++ ";" ++ rest).toList = front.toList ++ ';' :: rest.toList := by simp
  rw [ofHeader_eq, whole, Text.pieces_append, List.filterMap_append]
  rfl

/-- A blank before a header is no part of it. -/
theorem ofHeader_blank (text : String) : ofHeader (" " ++ text) = ofHeader text := by
  have whole : (" " ++ text).toList = ' ' :: text.toList := by simp
  obtain ⟨piece, more, pieced⟩ := List.exists_cons_of_ne_nil (Text.pieces_ne_nil ';' text.toList)
  have kept : Text.pieces ';' (' ' :: text.toList) = (' ' :: piece) :: more := by simp [Text.pieces, pieced]
  rw [ofHeader_eq, ofHeader_eq, whole, kept, pieced, List.filterMap_cons, List.filterMap_cons,
    Text.trim_cons_blank (by decide)]

/-- A cookie as it is written into a header. -/
def written (cookie : String × String) : String := cookie.1 ++ "=\"" ++ cookie.2 ++ "\""

/-- Names and values that a header can tell apart. -/
structure Writable (cookie : String × String) : Prop where
  nameEnds : '=' ∉ cookie.1.toList
  nameWhole : ';' ∉ cookie.1.toList
  nameTrimmed : Text.Trimmed cookie.1.toList
  valueWhole : ';' ∉ cookie.2.toList

theorem toList_written (cookie : String × String) :
    (written cookie).toList = cookie.1.toList ++ '=' :: ('"' :: cookie.2.toList ++ ['"']) := by
  simp [written]

theorem unquotedChars_quoted (value : List Char) : unquotedChars ('"' :: value ++ ['"']) = value := by
  have front : Text.after? ['"'] ('"' :: value ++ ['"']) = some (value ++ ['"']) := Text.after?_eq_some_iff.mpr rfl
  have back : Text.before? ['"'] (value ++ ['"']) = some value := Text.before?_eq_some_iff.mpr rfl
  rw [unquotedChars, front, Option.bind_some, back, Option.getD_some]

theorem ofPiece?_written {cookie : String × String} (writable : Writable cookie) :
    ofPiece? (written cookie).toList = some cookie := by
  have cut := Text.cut?_append writable.nameEnds ('"' :: cookie.2.toList ++ ['"'])
  have empty : Text.Trimmed [] := ⟨by simp, by simp⟩
  have quoted : Text.Trimmed ('"' :: cookie.2.toList ++ ['"']) :=
    Text.trimmed_append empty (by decide) (by decide) cookie.2.toList
  rw [ofPiece?, toList_written, cut]
  simp only [Option.bind_eq_bind, Option.bind_some, Option.pure_def, Text.trim_of_trimmed writable.nameTrimmed,
    Text.trim_of_trimmed quoted, unquotedChars_quoted, String.ofList_toList]

theorem ofHeader_written {cookie : String × String} (writable : Writable cookie) :
    ofHeader (written cookie) = [cookie] := by
  have whole : ';' ∉ (written cookie).toList := by
    simp [toList_written, writable.nameWhole, writable.valueWhole]
  have trimmed : Text.Trimmed (written cookie).toList := by
    rw [toList_written, ← List.cons_append, ← List.append_assoc]
    exact Text.trimmed_append writable.nameTrimmed (by decide) (by decide) _
  rw [ofHeader_eq, Text.pieces_of_not_mem whole, List.filterMap_cons, Text.trim_of_trimmed trimmed,
    ofPiece?_written writable]
  rfl

theorem ofHeader_intercalate {cookies : List (String × String)} (writable : ∀ cookie ∈ cookies, Writable cookie) :
    ofHeader ("; ".intercalate (cookies.map written)) = cookies := by
  induction cookies with
  | nil => rfl
  | cons cookie more ih =>
    obtain ⟨first, rest⟩ := List.forall_mem_cons.mp writable
    cases more with
    | nil => exact ofHeader_written first
    | cons next others =>
      have split : "; ".intercalate ((cookie :: next :: others).map written) =
          written cookie ++ ";" ++ (" " ++ "; ".intercalate ((next :: others).map written)) := by
        have separator : "; " = ";" ++ " " := rfl
        rw [List.map_cons, List.map_cons, String.intercalate_cons_cons, separator]
        simp only [String.append_assoc]
      rw [split, ofHeader_append, ofHeader_blank, ofHeader_written first, ih rest]
      rfl

/-- Headers joined by a semicolon are read one after the other, and cookies written with their values in quotes are
read back one by one, whatever their values hold but a semicolon. -/
theorem headers_read_back :
    (∀ front rest : String, ofHeader (front ++ ";" ++ rest) = ofHeader front ++ ofHeader rest) ∧
      ∀ cookies : List (String × String), (∀ cookie ∈ cookies, Writable cookie) →
        ofHeader ("; ".intercalate (cookies.map written)) = cookies :=
  ⟨ofHeader_append, fun _ writable => ofHeader_intercalate writable⟩

/-- Quotes, equals signs and blanks of a value are kept, and so is a cookie that is there twice. -/
theorem headers_read_back_quoted_twice :
    let cookie : String × String := ("a", " \"x=y\" ")
    Writable cookie ∧ ofHeader ("; ".intercalate ([cookie, ("", ""), cookie].map written)) =
      [cookie, ("", ""), cookie] := by
  intro cookie
  have letter : Text.isBlank 'a' = false := by decide
  have writable : Writable cookie :=
    ⟨by decide, by decide, ⟨by simpa [cookie] using letter, by simpa [cookie] using letter⟩, by decide⟩
  have empty : Writable ("", "") := ⟨by decide, by decide, ⟨by simp, by simp⟩, by decide⟩
  refine ⟨writable, headers_read_back.2 _ fun listed member => ?_⟩
  simp only [List.mem_cons, List.not_mem_nil, or_false] at member
  obtain rfl | rfl | rfl := member
  · exact writable
  · exact empty
  · exact writable

end Cookie

end BrowserWait
