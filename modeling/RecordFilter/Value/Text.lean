import RecordFilter.Binary64.Text
import RecordFilter.Value.Basic

/-!
# Display text

The text that pattern tests look at and that a substring needle stands for: a
string is its own text, numbers are written in display form, and an array is
its items joined by commas with null items left empty. An object has no display
text, and neither has an array that holds one.
-/

namespace RecordFilter.Value

mutual

def displayText? : Value → Option String
  | null => some "null"
  | boolean b => some (if b then "true" else "false")
  | integer n => some (toString n.toInt)
  | float x => some x.display
  | string s => some s
  | array items => (itemTexts? items).map (String.intercalate ",")
  | object _ => none

/-- The texts of the items of an array; null items are empty. -/
def itemTexts? : List Value → Option (List String)
  | [] => some []
  | null :: rest => (itemTexts? rest).map ("" :: ·)
  | v :: rest => do
    let text ← displayText? v
    let texts ← itemTexts? rest
    return text :: texts

end

end RecordFilter.Value
