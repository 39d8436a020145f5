import Mathlib.Data.List.Infix

/-!
# Splitting texts

When two texts that are put together of parts agree, do the parts agree? They do if the
first parts keep to some characters and the second ones start with none of them
(`append_inj_of_head`), as a number ends where no digit goes on (`toDigits_append_inj`), and
if the first parts are words of which none is the start of another
(`append_inj_of_prefixFree`).
-/

namespace RecordFilter

variable {α : Type} {p : α → Bool} {as bs s t : List α}

theorem takeWhile_append_of_head (has : ∀ a ∈ as, p a = true)
    (hs : ∀ a ∈ s.head?, p a = false) :
    (as ++ s).takeWhile p = as ∧ (as ++ s).dropWhile p = s := by
  rw [List.takeWhile_append_of_pos has, List.dropWhile_append_of_pos has]
  cases s with
  | nil => exact ⟨List.append_nil as, rfl⟩
  | cons a s => simp [hs a rfl]

/-- Parts agree that are told apart by their characters. -/
theorem append_inj_of_head (has : ∀ a ∈ as, p a = true) (hbs : ∀ b ∈ bs, p b = true)
    (hs : ∀ a ∈ s.head?, p a = false) (ht : ∀ a ∈ t.head?, p a = false)
    (h : as ++ s = bs ++ t) : as = bs ∧ s = t := by
  obtain ⟨htake, hdrop⟩ := takeWhile_append_of_head has hs
  obtain ⟨htake', hdrop'⟩ := takeWhile_append_of_head hbs ht
  rw [h] at htake hdrop
  exact ⟨htake.symm.trans htake', hdrop.symm.trans hdrop'⟩

theorem isDigit_of_mem_toDigits {n : Nat} {c : Char} (h : c ∈ Nat.toDigits 10 n) :
    c.isDigit = true :=
  Nat.isDigit_of_mem_toDigits (by decide) (by decide) h

theorem toList_toString (n : Nat) : (toString n).toList = Nat.toDigits 10 n := by
  rw [Nat.toString_eq_repr, Nat.repr, String.toList_ofList]

theorem toDigits_append_inj {m n : Nat} {s t : List Char}
    (hs : ∀ c ∈ s.head?, c.isDigit = false) (ht : ∀ c ∈ t.head?, c.isDigit = false)
    (h : Nat.toDigits 10 m ++ s = Nat.toDigits 10 n ++ t) : m = n ∧ s = t := by
  have hread : ∀ n, Nat.ofDigitChars 10 (Nat.toDigits 10 n) 0 = n := fun n =>
    Nat.ofDigitChars_toDigits (by decide) (by decide)
  obtain ⟨htext, hrest⟩ := append_inj_of_head (fun _ => isDigit_of_mem_toDigits)
    (fun _ => isDigit_of_mem_toDigits) hs ht h
  rw [← hread m, htext, hread]
  exact ⟨rfl, hrest⟩

/-- Words agree of which none is the start of another. -/
theorem append_inj_of_prefixFree {β : Type} {word : β → List α}
    (hword : ∀ a b, word a <+: word b → a = b) {a b : β}
    (h : word a ++ s = word b ++ t) : a = b ∧ s = t := by
  obtain rfl : a = b := by
    have hprefix : word a <+: word b ++ t := h ▸ List.prefix_append (word a) s
    rcases List.prefix_or_prefix_of_prefix hprefix (List.prefix_append (word b) t) with hab | hba
    · exact hword a b hab
    · exact (hword b a hba).symm
  exact ⟨rfl, List.append_cancel_left h⟩

end RecordFilter
