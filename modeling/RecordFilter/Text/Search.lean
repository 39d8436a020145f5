/-!
# Searching a text

Containment of one text in another, as contiguous characters. Ends are tested
with `List.isPrefixOf` and `List.isSuffixOf`.
-/

namespace RecordFilter.Text

/-- Whether `needle` occurs somewhere in the text. -/
def occursIn (needle : List Char) : List Char → Bool
  | [] => needle.isEmpty
  | c :: cs => needle.isPrefixOf (c :: cs) || occursIn needle cs

/-- A needle occurs exactly if the text splits around it. -/
theorem occursIn_iff {needle cs : List Char} :
    occursIn needle cs = true ↔ ∃ l r, cs = l ++ needle ++ r := by
  induction cs with
  | nil =>
    simp only [occursIn, List.isEmpty_iff]
    constructor
    · rintro rfl
      exact ⟨[], [], rfl⟩
    · rintro ⟨l, r, h⟩
      simp_all
  | cons c cs ih =>
    simp only [occursIn, Bool.or_eq_true, List.isPrefixOf_iff_prefix, ih]
    constructor
    · rintro (⟨r, h⟩ | ⟨l, r, h⟩)
      · exact ⟨[], r, by simpa using h.symm⟩
      · exact ⟨c :: l, r, by simp [h]⟩
    · rintro ⟨l, r, h⟩
      cases l with
      | nil => exact Or.inl ⟨r, by simpa using h.symm⟩
      | cons d l =>
        simp only [List.cons_append, List.cons.injEq] at h
        exact Or.inr ⟨l, r, h.2⟩

end RecordFilter.Text
