/-!
# Expressions

Boolean expressions over leaves that are checked in order. A conjunction stops at the first part that does not hold,
a disjunction at the first that does, and a failed check ends the whole evaluation, so no leaf behind the deciding
one is ever checked.
-/

namespace BrowserWait

/-- A leaf, a conjunction or a disjunction. -/
inductive Expression (α : Type) where
  | leaf (content : α)
  | all (parts : List (Expression α))
  | any (parts : List (Expression α))

namespace Expression

variable {α : Type}

/-- The conjunction of nothing, which holds. -/
def empty : Expression α := all []

instance : Inhabited (Expression α) := ⟨empty⟩

section

variable {m : Type → Type} [Monad m] (check : α → m Bool)

mutual

/-- Whether an expression holds when its leaves are checked from left to right. -/
def evaluate : Expression α → m Bool
  | leaf content => check content
  | all parts => evaluateAll parts
  | any parts => evaluateAny parts

/-- Whether all parts hold, up to the first that does not. -/
def evaluateAll : List (Expression α) → m Bool
  | [] => pure true
  | part :: more => do if ← evaluate part then evaluateAll more else pure false

/-- Whether some part holds, up to the first that does. -/
def evaluateAny : List (Expression α) → m Bool
  | [] => pure false
  | part :: more => do if ← evaluate part then pure true else evaluateAny more

end

end

mutual

/-- The leaves of an expression, from left to right. -/
def leaves : Expression α → List α
  | leaf content => [content]
  | all parts | any parts => leavesOfParts parts

/-- The leaves of parts, from left to right. -/
def leavesOfParts : List (Expression α) → List α
  | [] => []
  | part :: more => part.leaves ++ leavesOfParts more

end

mutual

/-- The number of leaves. -/
def leafCount : Expression α → Nat
  | leaf _ => 1
  | all parts | any parts => leafCountOfParts parts

/-- The number of leaves of parts. -/
def leafCountOfParts : List (Expression α) → Nat
  | [] => 0
  | part :: more => part.leafCount + leafCountOfParts more

end

mutual

/-- Whether an expression has no leaf. -/
def isEmpty : Expression α → Bool
  | leaf _ => false
  | all parts | any parts => partsEmpty parts

/-- Whether no part has a leaf. -/
def partsEmpty : List (Expression α) → Bool
  | [] => true
  | part :: more => part.isEmpty && partsEmpty more

end

/-- An expression with one part more; a leaf has no parts and stays as it is. -/
def push (expression part : Expression α) : Expression α :=
  match expression with
  | leaf content => leaf content
  | all parts => all (parts ++ [part])
  | any parts => any (parts ++ [part])

mutual

/-- The text of an expression, given that of its leaves. -/
def text (leafText : α → String) : Expression α → String
  | leaf content => leafText content
  | all parts => "(" ++ partsText leafText " && " parts ++ ")"
  | any parts => "(" ++ partsText leafText " || " parts ++ ")"

/-- The texts of parts with an operator between neighbours. -/
def partsText (leafText : α → String) (operator : String) : List (Expression α) → String
  | [] => ""
  | [part] => part.text leafText
  | part :: more => part.text leafText ++ operator ++ partsText leafText operator more

end

mutual

theorem length_leaves (expression : Expression α) : expression.leaves.length = expression.leafCount := by
  cases expression with
  | leaf content => simp [leaves, leafCount]
  | all parts => simpa [leaves, leafCount] using length_leavesOfParts parts
  | any parts => simpa [leaves, leafCount] using length_leavesOfParts parts

theorem length_leavesOfParts (parts : List (Expression α)) :
    (leavesOfParts parts).length = leafCountOfParts parts := by
  cases parts with
  | nil => simp [leavesOfParts, leafCountOfParts]
  | cons part more => simp [leavesOfParts, leafCountOfParts, length_leaves part, length_leavesOfParts more]

end

end Expression

end BrowserWait
