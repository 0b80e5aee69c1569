import BrowserWait.Decimal.Binary64
import BrowserWait.Text.Keyed

/-!
# JSON values

JSON values with exact numbers: integers that fit in 64 bits, signed or unsigned, and binary64 numbers for all
others. An object lists its members by increasing key, each key once, so equal objects are equal lists.
-/

namespace BrowserWait

/-- A number as a JSON text can give it. -/
inductive JsonNumber where
  | integer (value : Int)
  | double (value : Binary64)
deriving DecidableEq, Repr, Inhabited

/-- A JSON value. -/
inductive Json where
  | null
  | bool (value : Bool)
  | number (value : JsonNumber)
  | string (value : String)
  | array (items : List Json)
  | object (members : List (String × Json))
deriving Repr, Inhabited

namespace Json

/-! ## Equality -/

mutual

/-- Decides whether two values are equal. -/
def decEq : (a b : Json) → Decidable (a = b)
  | null, null => isTrue rfl
  | bool a, bool b => if h : a = b then isTrue (h ▸ rfl) else isFalse (by simpa using h)
  | number a, number b => if h : a = b then isTrue (h ▸ rfl) else isFalse (by simpa using h)
  | string a, string b => if h : a = b then isTrue (h ▸ rfl) else isFalse (by simpa using h)
  | array a, array b =>
    match decEqItems a b with
    | isTrue h => isTrue (h ▸ rfl)
    | isFalse h => isFalse (by simpa using h)
  | object a, object b =>
    match decEqMembers a b with
    | isTrue h => isTrue (h ▸ rfl)
    | isFalse h => isFalse (by simpa using h)
  | null, bool _ | null, number _ | null, string _ | null, array _ | null, object _ => isFalse (by simp)
  | bool _, null | bool _, number _ | bool _, string _ | bool _, array _ | bool _, object _ => isFalse (by simp)
  | number _, null | number _, bool _ | number _, string _ | number _, array _ | number _, object _ =>
    isFalse (by simp)
  | string _, null | string _, bool _ | string _, number _ | string _, array _ | string _, object _ =>
    isFalse (by simp)
  | array _, null | array _, bool _ | array _, number _ | array _, string _ | array _, object _ =>
    isFalse (by simp)
  | object _, null | object _, bool _ | object _, number _ | object _, string _ | object _, array _ =>
    isFalse (by simp)

/-- Decides whether two lists of values are equal. -/
def decEqItems : (a b : List Json) → Decidable (a = b)
  | [], [] => isTrue rfl
  | [], _ :: _ | _ :: _, [] => isFalse (by simp)
  | a :: as, b :: bs =>
    match decEq a b, decEqItems as bs with
    | isTrue h, isTrue h' => isTrue (h ▸ h' ▸ rfl)
    | isFalse h, _ => isFalse (by simp [h])
    | _, isFalse h => isFalse (by simp [h])

/-- Decides whether two lists of members are equal. -/
def decEqMembers : (a b : List (String × Json)) → Decidable (a = b)
  | [], [] => isTrue rfl
  | [], _ :: _ | _ :: _, [] => isFalse (by simp)
  | (k, a) :: as, (l, b) :: bs =>
    if hk : k = l then
      match decEq a b, decEqMembers as bs with
      | isTrue h, isTrue h' => isTrue (hk ▸ h ▸ h' ▸ rfl)
      | isFalse h, _ => isFalse (by simp [h])
      | _, isFalse h => isFalse (by simp [h])
    else isFalse (by simp [hk])

end

instance : DecidableEq Json := decEq

/-! ## Members -/

/-- The object with the given members; of two with the same key the later one counts. -/
def ofMembers (members : List (String × Json)) : Json :=
  object (Keyed.ofEntries members)

/-- The members with a key set, unless it is there already. -/
def withDefault (key : String) (value : Json) (members : List (String × Json)) : List (String × Json) :=
  match members.lookup key with
  | some _ => members
  | none => Keyed.set key value members

/-- The value of a key in an object; none in any other value. -/
def member? (key : String) : Json → Option Json
  | object members => members.lookup key
  | _ => none

/-- The text of a string. -/
def text? : Json → Option String
  | string value => some value
  | _ => none

/-- The truth value of a boolean. -/
def flag? : Json → Option Bool
  | bool value => some value
  | _ => none

/-- The value of an integer that is not negative. -/
def natural? : Json → Option Nat
  | number (.integer (.ofNat n)) => some n
  | _ => none

/-- An integer that is not negative. -/
def natural (n : Nat) : Json := number (.integer n)

/-- Whether a page script would take a value for true. -/
def isTruthy : Json → Bool
  | null => false
  | bool value => value
  | number (.integer value) => value != 0
  | number (.double value) => !value.isZero
  | string value => value != ""
  | array _ | object _ => true

/-- The values a page script takes for false: zeros of either sign among them, but no list or object. -/
inductive Falsy : Json → Prop where
  | null : Falsy null
  | false : Falsy (bool false)
  | integer : Falsy (number (.integer 0))
  | double (negative : Bool) (exponent : Int) : Falsy (number (.double ⟨negative, 0, exponent⟩))
  | string : Falsy (string "")

theorem isTruthy_iff {value : Json} : value.isTruthy = true ↔ ¬ value.Falsy := by
  rw [← Bool.not_eq_false]
  apply not_congr
  constructor
  · intro untrue
    unfold isTruthy at untrue
    split at untrue
    · exact .null
    · rw [untrue]
      exact .false
    · rw [bne_eq_false_iff_eq.mp untrue]
      exact .integer
    · next number =>
      obtain ⟨negative, mantissa, exponent⟩ := number
      obtain rfl : mantissa = 0 := by simpa [Binary64.isZero] using untrue
      exact .double negative exponent
    · rw [bne_eq_false_iff_eq.mp untrue]
      exact .string
    · cases untrue
    · cases untrue
  · rintro (_ | _ | _ | _ | _) <;> rfl

@[simp] theorem natural?_natural (n : Nat) : (natural n).natural? = some n := rfl

theorem natural?_eq_some_iff {value : Json} {n : Nat} : value.natural? = some n ↔ value = natural n := by
  constructor
  · intro read
    unfold natural? at read
    split at read
    · cases read
      rfl
    · cases read
  · rintro rfl
    rfl

theorem text?_eq_some_iff {value : Json} {text : String} : value.text? = some text ↔ value = string text := by
  cases value <;> simp [text?]

end Json

end BrowserWait
