import RecordFilter.Pattern.Automaton
import RecordFilter.Pattern.Meaning
import RecordFilter.Pattern.Reader

/-!
# Patterns

A pattern keeps its text and its one option beside the expression that they
were read to. Two patterns of one text and one option are the same pattern.
-/

namespace RecordFilter

structure Pattern where
  source : String
  ignoreCase : Bool
  regex : Pattern.Regex

namespace Pattern

/-- The options that a pattern starts with. -/
def Options.initial (ignoreCase : Bool) : Options := ⟨ignoreCase, false, false, false, true, false⟩

/-- The expression of a pattern text. -/
def Regex.read (source : String) (ignoreCase : Bool) : Except Fault Regex := do
  let tree ← Syntax.read source
  let (regex, _) ← tree.meaning (.initial ignoreCase)
  if !regex.fits then throw .tooLarge
  return regex

/-- Reads a pattern text. -/
def read (source : String) (ignoreCase : Bool) : Except Fault Pattern := do
  return ⟨source, ignoreCase, ← Regex.read source ignoreCase⟩

/-- A pattern that was read has the text and the option it was read from. -/
theorem read_eq_ok {source : String} {ignoreCase : Bool} {p : Pattern}
    (h : read source ignoreCase = .ok p) :
    p.source = source ∧ p.ignoreCase = ignoreCase := by
  simp only [read] at h
  cases hr : Regex.read source ignoreCase with
  | error f => rw [hr] at h; cases h
  | ok r => rw [hr] at h; cases h; exact ⟨rfl, rfl⟩

/-- Whether the pattern matches somewhere in a text. -/
def isMatch (p : Pattern) (text : String) : Bool := p.regex.occursIn text.toList

/-- The pattern as a listing shows it. -/
def describe (p : Pattern) : String :=
  "/" ++ p.source ++ "/" ++ (if p.ignoreCase then "i" else "")

end Pattern

end RecordFilter
