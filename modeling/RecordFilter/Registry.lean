import RecordFilter.Path.Resolve

/-!
# Custom operators

Operators that a caller registers by name. Each is asked about the record under
test, its position, and the configuration value that its node carries. A name
that is no identifier may be registered, but no expression reaches it.
-/

namespace RecordFilter

/-- Asked about a record, its position and a configuration. -/
abbrev CustomOperator := Value → Position → Value → Bool

/-- Registered operators by name, no name twice. -/
abbrev Registry := List (String × CustomOperator)

namespace Registry

/-- A letter, `_` or `$`, and then letters, digits, `_` and `$`. -/
def isIdentifier (name : String) : Bool :=
  match name.toList with
  | [] => false
  | c :: cs =>
    (c.isAlpha || c == '_' || c == '$') && cs.all fun d => d.isAlphanum || d == '_' || d == '$'

/-- Registers an operator, replacing one of the same name. -/
def register (name : String) (op : CustomOperator) : Registry → Registry
  | [] => [(name, op)]
  | (other, old) :: rest =>
    if name = other then (name, op) :: rest else (other, old) :: register name op rest

/-- The operator that a token leads to. -/
def get? (registry : Registry) (token : String) : Option CustomOperator :=
  if isIdentifier token then registry.lookup token else none

/-- The registered names in code point order. -/
def names (registry : Registry) : List String :=
  (registry.map (·.1)).mergeSort fun a b => compare a b != .gt

theorem get?_register_self (registry : Registry) (name : String) (op : CustomOperator)
    (h : isIdentifier name = true) : get? (registry.register name op) name = some op := by
  simp only [get?, h, if_true]
  induction registry with
  | nil => simp [register]
  | cons entry rest ih =>
    obtain ⟨other, old⟩ := entry
    by_cases hn : name = other
    · simp [register, hn]
    · have : (name == other) = false := by simp [hn]
      simp [register, hn, List.lookup_cons, this, ih]

theorem get?_register_of_ne (registry : Registry) {name other : String} (op : CustomOperator)
    (h : other ≠ name) : get? (registry.register name op) other = registry.get? other := by
  simp only [get?]
  split
  · induction registry with
    | nil =>
      have : (other == name) = false := by simp [h]
      simp [register, List.lookup_cons, this]
    | cons entry rest ih =>
      obtain ⟨third, old⟩ := entry
      by_cases hn : name = third
      · subst hn
        have : (other == name) = false := by simp [h]
        simp [register, List.lookup_cons, this]
      · simp only [register, hn, if_false, List.lookup_cons]
        split
        · rfl
        · exact ih
  · rfl

end Registry

end RecordFilter
