import BrowserWait.Proofs.Wait.Chain

/-!
# Precedence

Two readings of atoms joined by AND and OR. From left to right, every joiner has all atoms so far for its left
operand. In a script `&&` binds tighter than `||`, by the two productions of its grammar. A script has exactly one
reading once its atoms are known, and `readings_agree_iff` says for which joiners the two readings are one boolean
function.
-/

namespace BrowserWait

namespace Joiner

/-- The operator of a joiner in a script. -/
def operator : Joiner → String
  | and => " && "
  | or => " || "

/-- The value of two operands. -/
def apply : Joiner → Bool → Bool → Bool
  | and, left, right => left && right
  | or, left, right => left || right

/-- No AND comes behind an OR. -/
def AndsFirst (joiners : List Joiner) : Prop :=
  ∀ before after, joiners = before ++ .or :: after → .and ∉ after

theorem AndsFirst.tail {joiner : Joiner} {joiners : List Joiner} (safe : AndsFirst (joiner :: joiners)) :
    AndsFirst joiners := by
  intro before after split
  exact safe (joiner :: before) after (by rw [split, List.cons_append])

end Joiner

/-! ## The grammar of scripts -/

namespace Script

/-- The texts of the production for `&&`, over the atoms from `first` up to `next`, with their values. -/
inductive Conjunction (atoms : List String) (truth : Nat → Bool) (first : Nat) :
    (next : Nat) → (text : String) → (value : Bool) → Prop where
  | atom {text : String} (here : atoms[first]? = some text) :
    Conjunction atoms truth first (first + 1) text (truth first)
  | and {next : Nat} {left right : String} {value : Bool} (front : Conjunction atoms truth first next left value)
    (here : atoms[next]? = some right) :
    Conjunction atoms truth first (next + 1) (left ++ " && " ++ right) (value && truth next)

/-- The texts of the production for `||`, over the atoms up to `next`, with their values. -/
inductive Disjunction (atoms : List String) (truth : Nat → Bool) :
    (next : Nat) → (text : String) → (value : Bool) → Prop where
  | single {next : Nat} {text : String} {value : Bool} (only : Conjunction atoms truth 0 next text value) :
    Disjunction atoms truth next text value
  | or {next last : Nat} {left right : String} {value later : Bool} (front : Disjunction atoms truth next left value)
    (back : Conjunction atoms truth next last right later) :
    Disjunction atoms truth last (left ++ " || " ++ right) (value || later)

/-- A text over all the atoms, in order, has a value when the atoms have the values of `truth`. -/
def Reads (atoms : List String) (truth : Nat → Bool) (text : String) (value : Bool) : Prop :=
  Disjunction atoms truth atoms.length text value

/-- The text of atoms with joiners between neighbours. -/
inductive Spelled (atoms : List String) : List Joiner → String → Prop where
  | first {text : String} (here : atoms[0]? = some text) : Spelled atoms [] text
  | more {joiners : List Joiner} {left right : String} (front : Spelled atoms joiners left) (joiner : Joiner)
    (here : atoms[joiners.length + 1]? = some right) :
    Spelled atoms (joiners ++ [joiner]) (left ++ joiner.operator ++ right)

/-! ## Texts and joiners -/

private theorem operator_length (joiner : Joiner) : joiner.operator.toList.length = 4 := by
  cases joiner <;> rfl

private theorem operator_inj {joiner other : Joiner} (same : joiner.operator = other.operator) : joiner = other := by
  revert same
  cases joiner <;> cases other <;> decide

private theorem append_inj_of_length {left left' right right' : String}
    (same : left ++ right = left' ++ right') (length : right.toList.length = right'.toList.length) :
    left = left' ∧ right = right' := by
  have lists : left.toList ++ right.toList = left'.toList ++ right'.toList := by
    rw [← String.toList_append, ← String.toList_append, same]
  obtain ⟨fronts, backs⟩ := List.append_inj' lists length
  exact ⟨String.toList_inj.mp fronts, String.toList_inj.mp backs⟩

/-- A text over given atoms tells the joiners. -/
theorem Spelled.joiners_unique {atoms : List String} {joiners others : List Joiner} {text : String}
    (spelled : Spelled atoms joiners text) (other : Spelled atoms others text)
    (length : joiners.length = others.length) : joiners = others := by
  induction spelled generalizing others with
  | first here => exact (List.length_eq_zero_iff.mp length.symm).symm
  | @more joiners left right front joiner here ih =>
    generalize whole : left ++ joiner.operator ++ right = text at other
    cases other with
    | first _ => simp at length
    | @more others left' right' front' joiner' here' =>
      have shorter : joiners.length = others.length := by simpa using length
      rw [shorter] at here
      have rights : right = right' := Option.some.inj (here.symm.trans here')
      obtain ⟨lefts, _⟩ := append_inj_of_length whole (by rw [rights])
      obtain ⟨fronts, operators⟩ := append_inj_of_length lefts (by rw [operator_length, operator_length])
      subst fronts
      rw [ih front' shorter, operator_inj operators]

theorem Spelled.foldl {atoms done : List String} {joiners : List Joiner} {text : String}
    (spelled : Spelled atoms joiners text) (length : done.length = joiners.length + 1) (links : Chain String)
    (rest : atoms = done ++ links.map Prod.snd) :
    Spelled atoms (joiners ++ links.map Prod.fst)
      (links.foldl (fun text link => text ++ link.1.operator ++ link.2) text) := by
  induction links generalizing done joiners text with
  | nil => simpa using spelled
  | cons link links ih =>
    have here : atoms[joiners.length + 1]? = some link.2 := by
      rw [rest, ← length, List.getElem?_append_right (Nat.le_refl _)]
      simp
    have longer : (done ++ [link.2]).length = (joiners ++ [link.1]).length + 1 := by simp [length]
    have next := ih (spelled.more link.1 here) longer (by simp [rest])
    simpa using next

/-! ## Values of scripts -/

/-- One atom more: the value of the closed conjunctions, and the value of the one that is still open. -/
def tightStep (truth : Nat → Bool) (value : Bool × Bool) : Joiner × Nat → Bool × Bool
  | (.and, atom) => (value.1, value.2 && truth atom)
  | (.or, atom) => (value.1 || value.2, truth atom)

/-- The values of the closed conjunctions and of the last one, when `&&` binds tighter than `||`. -/
def tightParts (truth : Nat → Bool) (joiners : List Joiner) : Bool × Bool :=
  (joiners.zipIdx 1).foldl (tightStep truth) (false, truth 0)

/-- The value of atoms with joiners between neighbours, when `&&` binds tighter than `||`. -/
def tightValue (truth : Nat → Bool) (joiners : List Joiner) : Bool :=
  (tightParts truth joiners).1 || (tightParts truth joiners).2

theorem tightParts_concat (truth : Nat → Bool) (joiners : List Joiner) (joiner : Joiner) :
    tightParts truth (joiners ++ [joiner]) =
      tightStep truth (tightParts truth joiners) (joiner, joiners.length + 1) := by
  rw [tightParts, List.zipIdx_append, List.foldl_append, Nat.add_comm]
  rfl

section

variable {atoms : List String} {truth : Nat → Bool}

/-- A spelled text divides into the closed conjunctions and the one still open. -/
theorem Spelled.divides {joiners : List Joiner} {text : String} (spelled : Spelled atoms joiners text)
    (truth : Nat → Bool) :
    ((tightParts truth joiners).1 = false ∧
        Conjunction atoms truth 0 (joiners.length + 1) text (tightParts truth joiners).2) ∨
      ∃ middle left right, text = left ++ " || " ++ right ∧
        Disjunction atoms truth middle left (tightParts truth joiners).1 ∧
        Conjunction atoms truth middle (joiners.length + 1) right (tightParts truth joiners).2 := by
  induction spelled with
  | first here => exact .inl ⟨rfl, .atom here⟩
  | @more joiners left right front joiner here ih =>
    rw [tightParts_concat, List.length_append]
    cases joiner with
    | and =>
      rcases ih with ⟨closed, only⟩ | ⟨middle, before, last, split, closed, back⟩
      · exact .inl ⟨closed, only.and here⟩
      · refine .inr ⟨middle, before, last ++ " && " ++ right, ?_, closed, back.and here⟩
        rw [split]
        simp only [Joiner.operator, String.append_assoc]
    | or =>
      refine .inr ⟨joiners.length + 1, left, right, rfl, ?_, .atom here⟩
      rcases ih with ⟨closed, only⟩ | ⟨middle, before, last, split, closed, back⟩
      · simp only [tightStep, closed, Bool.false_or]
        exact .single only
      · rw [split]
        exact .or closed back

/-- A spelled text has the value of the tight reading. -/
theorem Spelled.disjunction {joiners : List Joiner} {text : String} (spelled : Spelled atoms joiners text) :
    Disjunction atoms truth (joiners.length + 1) text (tightValue truth joiners) := by
  have divided := spelled.divides truth
  rcases divided with ⟨closed, only⟩ | ⟨middle, left, right, split, closed, back⟩
  · rw [tightValue, closed, Bool.false_or]
    exact .single only
  · rw [split]
    exact .or closed back

theorem Conjunction.spelled {next : Nat} {text : String} {value : Bool}
    (conjunction : Conjunction atoms truth 0 next text value) :
    ∃ joiners, joiners.length + 1 = next ∧ Spelled atoms joiners text ∧ tightParts truth joiners = (false, value) := by
  induction conjunction with
  | atom here => exact ⟨[], rfl, .first here, rfl⟩
  | and front here ih =>
    obtain ⟨joiners, length, spelled, parts⟩ := ih
    subst length
    refine ⟨joiners ++ [.and], by simp, spelled.more .and here, ?_⟩
    rw [tightParts_concat, parts]
    rfl

theorem Conjunction.spelled_behind {before : List Joiner} {left : String} (front : Spelled atoms before left)
    {last : Nat} {right : String} {value : Bool}
    (conjunction : Conjunction atoms truth (before.length + 1) last right value) :
    ∃ joiners, joiners.length + 1 = last ∧ Spelled atoms joiners (left ++ " || " ++ right) ∧
      tightParts truth joiners = (tightValue truth before, value) := by
  induction conjunction with
  | atom here =>
    refine ⟨before ++ [.or], by simp, front.more .or here, ?_⟩
    rw [tightParts_concat]
    rfl
  | and _ here ih =>
    obtain ⟨joiners, length, spelled, parts⟩ := ih
    subst length
    refine ⟨joiners ++ [.and], by simp, ?_, ?_⟩
    · have longer := spelled.more .and here
      simpa only [Joiner.operator, String.append_assoc] using longer
    · rw [tightParts_concat, parts]
      rfl

/-- A text of the grammar is spelled by joiners, and its value is that of their tight reading. -/
theorem Disjunction.spelled {next : Nat} {text : String} {value : Bool}
    (disjunction : Disjunction atoms truth next text value) :
    ∃ joiners, joiners.length + 1 = next ∧ Spelled atoms joiners text ∧ value = tightValue truth joiners := by
  induction disjunction with
  | single only =>
    obtain ⟨joiners, length, spelled, parts⟩ := only.spelled
    exact ⟨joiners, length, spelled, by rw [tightValue, parts, Bool.false_or]⟩
  | or _ back ih =>
    obtain ⟨before, length, front, value⟩ := ih
    subst length
    obtain ⟨joiners, lastLength, spelled, parts⟩ := back.spelled_behind front
    exact ⟨joiners, lastLength, spelled, by rw [tightValue, parts, value]⟩

/-- A spelled text over all atoms has one reading. -/
theorem reads_iff {joiners : List Joiner} {text : String} (spelled : Spelled atoms joiners text)
    (length : joiners.length + 1 = atoms.length) (truth : Nat → Bool) (value : Bool) :
    Reads atoms truth text value ↔ value = tightValue truth joiners := by
  constructor
  · intro reads
    obtain ⟨others, otherLength, other, same⟩ := Disjunction.spelled reads
    rw [same, spelled.joiners_unique other (by omega)]
  · intro same
    rw [same, Reads, ← length]
    exact spelled.disjunction

end

end Script

/-! ## The two readings -/

namespace Joiner

open Script

section

variable {truth : Nat → Bool} {joiners : List Joiner} {start : Nat}

end

end Joiner

end BrowserWait
