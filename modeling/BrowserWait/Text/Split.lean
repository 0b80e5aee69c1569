/-!
# Cutting texts

Texts are cut where a given text begins: off the front, off the back, at its first occurrence, and at every
occurrence of one character. Each cut can be undone by putting the text back where it was cut.
-/

namespace BrowserWait.Text

/-- What follows `lead` in a text that begins with it. -/
def after? : (lead text : List Char) → Option (List Char)
  | [], text => some text
  | _ :: _, [] => none
  | a :: lead, b :: text => if a = b then after? lead text else none

/-- What precedes `tail` in a text that ends with it. -/
def before? (tail text : List Char) : Option (List Char) :=
  (after? tail.reverse text.reverse).map List.reverse

/-- What precedes and what follows the first occurrence of `mark`. -/
def cut? (mark : List Char) : List Char → Option (List Char × List Char)
  | [] => (after? mark []).map ([], ·)
  | c :: text =>
    match after? mark (c :: text) with
    | some rest => some ([], rest)
    | none => (cut? mark text).map fun (front, rest) => (c :: front, rest)

/-- Whether `mark` occurs in a text. -/
def contains (mark text : List Char) : Bool := (cut? mark text).isSome

/-- What stands between the occurrences of a character: one piece more than there are occurrences. -/
def pieces (mark : Char) : List Char → List (List Char)
  | [] => [[]]
  | c :: text =>
    match pieces mark text with
    | [] => [[]]
    | piece :: more => if c = mark then [] :: piece :: more else (c :: piece) :: more

/-- Pieces with a text between neighbours. -/
def joined (mark : List Char) : List (List Char) → List Char
  | [] => []
  | [piece] => piece
  | piece :: more => piece ++ mark ++ joined mark more

theorem after?_append (lead text : List Char) : after? lead (lead ++ text) = some text := by
  induction lead with
  | nil => rfl
  | cons a lead ih => simp [after?, ih]

theorem eq_append_of_after? {lead text rest : List Char} (found : after? lead text = some rest) :
    text = lead ++ rest := by
  induction lead generalizing text with
  | nil => simpa [after?] using found
  | cons a lead ih =>
    cases text with
    | nil => simp [after?] at found
    | cons b text =>
      by_cases same : a = b
      · simp only [after?, same, if_true] at found
        simp [same, ih found]
      · simp [after?, same] at found

/-- The front is found exactly when it is there. -/
theorem after?_eq_some_iff {lead text rest : List Char} : after? lead text = some rest ↔ text = lead ++ rest :=
  ⟨eq_append_of_after?, fun whole => whole ▸ after?_append lead rest⟩

/-- The back is found exactly when it is there. -/
theorem before?_eq_some_iff {tail text rest : List Char} : before? tail text = some rest ↔ text = rest ++ tail := by
  simp only [before?, Option.map_eq_some_iff, after?_eq_some_iff]
  constructor
  · rintro ⟨back, whole, rfl⟩
    have turned := congrArg List.reverse whole
    simpa using turned
  · rintro rfl
    exact ⟨rest.reverse, by simp, by simp⟩

/-- A text is cut at an occurrence of a mark whose first character stands nowhere before it. -/
theorem cut?_append_mark {c : Char} {front : List Char} (first : c ∉ front) (mark rest : List Char) :
    cut? (c :: mark) (front ++ (c :: mark ++ rest)) = some (front, rest) := by
  induction front with
  | nil =>
    have there := after?_append (c :: mark) rest
    rw [List.nil_append, List.cons_append, cut?, ← List.cons_append, there]
  | cons d front ih =>
    have other : ¬ c = d := fun same => first (same ▸ List.mem_cons_self)
    have behind := ih fun member => first (List.mem_cons_of_mem d member)
    rw [List.cons_append, cut?, after?, if_neg other]
    dsimp only
    rw [behind]
    rfl

/-- A text is cut at the first occurrence of a mark of one character. -/
theorem cut?_append {mark : Char} {front : List Char} (first : mark ∉ front) (rest : List Char) :
    cut? [mark] (front ++ mark :: rest) = some (front, rest) := cut?_append_mark first [] rest

theorem eq_append_of_cut? {mark text front rest : List Char} (found : cut? mark text = some (front, rest)) :
    text = front ++ (mark ++ rest) := by
  induction text generalizing front with
  | nil =>
    obtain ⟨behind, there, ends⟩ := Option.map_eq_some_iff.mp found
    obtain ⟨rfl, rfl⟩ := Prod.mk.inj ends
    simpa using eq_append_of_after? there
  | cons c text ih =>
    rw [cut?] at found
    cases there : after? mark (c :: text) with
    | some behind =>
      rw [there] at found
      cases found
      simpa using eq_append_of_after? there
    | none =>
      rw [there] at found
      obtain ⟨⟨before, behind⟩, later, ends⟩ := Option.map_eq_some_iff.mp found
      obtain ⟨rfl, rfl⟩ := Prod.mk.inj ends
      rw [ih later, List.cons_append]

/-- A mark occurs in a text when it is a run of its characters. -/
theorem contains_iff {mark text : List Char} : contains mark text = true ↔ mark <:+: text := by
  rw [contains, Option.isSome_iff_exists]
  constructor
  · rintro ⟨⟨front, rest⟩, found⟩
    exact ⟨front, rest, by rw [eq_append_of_cut? found, List.append_assoc]⟩
  · rintro ⟨front, rest, rfl⟩
    induction front with
    | nil =>
      cases mark with
      | nil => cases rest <;> exact ⟨_, rfl⟩
      | cons c mark => exact ⟨_, cut?_append_mark List.not_mem_nil mark rest⟩
    | cons c front ih =>
      obtain ⟨⟨before, behind⟩, found⟩ := ih
      rw [List.cons_append, List.cons_append, cut?]
      split
      · exact ⟨_, rfl⟩
      · exact ⟨_, by rw [found]; rfl⟩

/-- The first occurrence of a mark of one character is the one with no other before it. -/
theorem cut?_eq_some_iff {mark : Char} {text front rest : List Char} :
    cut? [mark] text = some (front, rest) ↔ text = front ++ mark :: rest ∧ mark ∉ front := by
  constructor
  · intro found
    induction text generalizing front with
    | nil => simp [cut?, after?] at found
    | cons c text ih =>
      by_cases same : mark = c
      · obtain ⟨rfl, rfl⟩ : [] = front ∧ text = rest := by simpa [cut?, after?, same] using found
        exact ⟨by rw [same, List.nil_append], List.not_mem_nil⟩
      · simp only [cut?, after?, if_neg same] at found
        obtain ⟨⟨before, behind⟩, later, ends⟩ := Option.map_eq_some_iff.mp found
        obtain ⟨rfl, rfl⟩ := Prod.mk.inj ends
        obtain ⟨whole, first⟩ := ih later
        refine ⟨by rw [whole, List.cons_append], ?_⟩
        rw [List.mem_cons, not_or]
        exact ⟨same, first⟩
  · rintro ⟨rfl, first⟩
    exact cut?_append first rest

theorem pieces_ne_nil (mark : Char) (text : List Char) : pieces mark text ≠ [] := by
  induction text with
  | nil => simp [pieces]
  | cons c text ih =>
    unfold pieces
    split
    · simp
    · split <;> simp

theorem pieces_of_not_mem {mark : Char} {text : List Char} (absent : mark ∉ text) : pieces mark text = [text] := by
  induction text with
  | nil => rfl
  | cons c text ih =>
    obtain ⟨differ, later⟩ := List.ne_and_not_mem_of_not_mem_cons absent
    rw [pieces, ih later]
    exact if_neg differ.symm

/-- The pieces of a text are those before a mark and those behind it. -/
theorem pieces_append (mark : Char) (front rest : List Char) :
    pieces mark (front ++ mark :: rest) = pieces mark front ++ pieces mark rest := by
  induction front with
  | nil =>
    obtain ⟨piece, more, pieced⟩ := List.exists_cons_of_ne_nil (pieces_ne_nil mark rest)
    simp [pieces, pieced]
  | cons c front ih =>
    obtain ⟨piece, more, pieced⟩ := List.exists_cons_of_ne_nil (pieces_ne_nil mark front)
    rw [List.cons_append, pieces, ih, pieces, pieced]
    by_cases same : c = mark <;> simp [same]

end BrowserWait.Text
