import RecordFilter.Binary64.Basic

/-!
# Values

The values that records are made of: JSON values with integers and floats kept
apart. An object is its list of fields; the first field of a name counts, and
no operation on values depends on the order of differently named fields. An
absent value (a missing field) is not a value: lookups answer with `Option`.
-/

namespace RecordFilter

inductive Value where
  | null
  | boolean (b : Bool)
  | integer (n : Int64)
  | float (x : Binary64)
  | string (s : String)
  | array (items : List Value)
  | object (fields : List (String × Value))
  deriving Inhabited

namespace Value

/-- The name of a value's type, as messages spell it. -/
def typeName : Value → String
  | null => "null"
  | boolean _ => "boolean"
  | integer _ => "integer"
  | float _ => "float"
  | string _ => "string"
  | array _ => "array"
  | object _ => "object"

/-- `false`, zero, NaN, the empty string and null are falsy; arrays and objects
are truthy even when empty. -/
def isTruthy : Value → Bool
  | null => false
  | boolean b => b
  | integer n => n != 0
  | float x => !x.isZero && !x.isNaN
  | string s => s != ""
  | array _ => true
  | object _ => true

/-- A literal that a comparison accepts. -/
def isScalar : Value → Bool
  | array _ => false
  | object _ => false
  | _ => true

/-- Puts a field in front of the first field whose name is not smaller, and
drops a field of the same name there. -/
def insertField {α : Type} (name : String) (a : α) : List (String × α) → List (String × α)
  | [] => [(name, a)]
  | (other, b) :: rest =>
    match compare name other with
    | .lt => (name, a) :: (other, b) :: rest
    | .eq => (name, a) :: rest
    | .gt => (other, b) :: insertField name a rest

/-- The fields by name, in code point order, the first of each name. -/
def sortFields {α : Type} : List (String × α) → List (String × α)
  | [] => []
  | (name, a) :: rest => insertField name a (sortFields rest)

theorem lookup_cons_ite {α : Type} (name key : String) (a : α) (fields : List (String × α)) :
    ((name, a) :: fields).lookup key = if key = name then some a else fields.lookup key := by
  by_cases h : key = name
  · simp [h]
  · have : (key == name) = false := by simp [h]
    simp [List.lookup_cons, this, h]

/-- A new field is found under its name, and all others as before. -/
theorem lookup_insertField {α : Type} (name key : String) (a : α) (fields : List (String × α)) :
    (insertField name a fields).lookup key = if key = name then some a else fields.lookup key := by
  induction fields with
  | nil => simp [insertField, lookup_cons_ite]
  | cons entry rest ih =>
    obtain ⟨other, b⟩ := entry
    simp only [insertField]
    split
    · rw [lookup_cons_ite]
    · next heq =>
      obtain rfl := Std.LawfulEqOrd.eq_of_compare heq
      simp only [lookup_cons_ite]
      split <;> rfl
    · next hgt =>
      have hne : name ≠ other := by
        rintro rfl
        simp at hgt
      rw [lookup_cons_ite, ih, lookup_cons_ite]
      by_cases h : key = name
      · simp [h, hne]
      · simp [h]

/-- Sorting keeps what is found under each name. -/
@[simp] theorem lookup_sortFields {α : Type} (key : String) (fields : List (String × α)) :
    (sortFields fields).lookup key = fields.lookup key := by
  induction fields with
  | nil => rfl
  | cons entry rest ih =>
    obtain ⟨name, a⟩ := entry
    rw [sortFields, lookup_insertField, lookup_cons_ite, ih]

mutual

/-- The same value with the fields of every object sorted by name. -/
def normalize : Value → Value
  | null => null
  | boolean b => boolean b
  | integer n => integer n
  | float x => float x
  | string s => string s
  | array items => array (normalizeItems items)
  | object fields => object (sortFields (normalizeFields fields))

def normalizeItems : List Value → List Value
  | [] => []
  | v :: vs => normalize v :: normalizeItems vs

def normalizeFields : List (String × Value) → List (String × Value)
  | [] => []
  | (name, v) :: rest => (name, normalize v) :: normalizeFields rest

end

mutual

/-- The value as a JSON document can hold it: infinities and NaN become
null. -/
def finite : Value → Value
  | null => null
  | boolean b => boolean b
  | integer n => integer n
  | float x => if x.isFinite then float x else null
  | string s => string s
  | array items => array (finiteItems items)
  | object fields => object (finiteFields fields)

def finiteItems : List Value → List Value
  | [] => []
  | v :: vs => finite v :: finiteItems vs

def finiteFields : List (String × Value) → List (String × Value)
  | [] => []
  | (name, v) :: rest => (name, finite v) :: finiteFields rest

end

mutual

/-- Structural agreement of two normalized values. Floats agree as numbers, so
NaN differs from itself and the two zeros agree; an integer never agrees with a
float. -/
def agree : Value → Value → Bool
  | null, null => true
  | boolean a, boolean b => a == b
  | integer a, integer b => a == b
  | float x, float y => x.compare? y == some .eq
  | string a, string b => a == b
  | array xs, array ys => agreeItems xs ys
  | object xs, object ys => agreeFields xs ys
  | _, _ => false

def agreeItems : List Value → List Value → Bool
  | [], [] => true
  | x :: xs, y :: ys => agree x y && agreeItems xs ys
  | _, _ => false

def agreeFields : List (String × Value) → List (String × Value) → Bool
  | [], [] => true
  | (m, x) :: xs, (n, y) :: ys => m == n && agree x y && agreeFields xs ys
  | _, _ => false

end

/-- Structural equality, whatever the order of fields. -/
def same (a b : Value) : Bool := agree a.normalize b.normalize

end Value

end RecordFilter
