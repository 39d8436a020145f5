import Mathlib.Algebra.GroupWithZero.Nat
import RecordFilter.Json.Printer
import RecordFilter.Proofs.Text.Splitting

/-!
# Line ends in texts

`newlines` counts the line ends of a text, which add up where texts are put together. The
compact form of a value has none (`newlines_toJson`), whatever the strings in it hold: the
layout breaks no lines, numbers and keywords keep to a few characters (`isBare`), and a line
end in a string or in the name of a field is escaped (`not_mem_escape`).
-/

namespace RecordFilter

def newlines (s : String) : Nat := s.toList.count '\n'

theorem newlines_eq_zero_iff {s : String} : newlines s = 0 ↔ '\n' ∉ s.toList :=
  List.count_eq_zero

theorem newlines_append (s t : String) : newlines (s ++ t) = newlines s + newlines t := by
  rw [newlines, String.toList_append, List.count_append]
  rfl

theorem newlines_join (texts : List String) :
    newlines (String.join texts) = (texts.map newlines).sum := by
  induction texts with
  | nil => rfl
  | cons text rest ih => rw [String.join_cons, newlines_append, ih, List.map_cons, List.sum_cons]

theorem not_mem_toDigits (n : Nat) : '\n' ∉ Nat.toDigits 10 n := by
  intro h
  exact absurd (isDigit_of_mem_toDigits h) (by decide)

theorem newlines_toString (n : Nat) : newlines (toString n) = 0 := by
  rw [newlines_eq_zero_iff, toList_toString]
  exact not_mem_toDigits n

namespace Json

theorem hexDigit_ne_newline (n : Nat) : hexDigit n ≠ '\n' := by
  have hdigits : ∀ k < 16, Nat.digitChar k ≠ '\n' := by decide
  exact hdigits _ (Nat.mod_lt n (by decide))

theorem not_mem_escapeChar (c : Char) : '\n' ∉ escapeChar c := by
  rw [escapeChar]
  split
  · decide
  split
  · decide
  split
  · decide
  · next hline =>
      split
      · decide
      split
      · decide
      split
      · simp [(hexDigit_ne_newline _).symm]
      · simpa using Ne.symm hline

theorem not_mem_escape (cs : List Char) : '\n' ∉ escape cs := by
  induction cs with
  | nil => exact List.not_mem_nil
  | cons c cs ih => simp [escape, not_mem_escapeChar, ih]

theorem not_mem_writeString (s : String) : '\n' ∉ writeString s := by
  simp [writeString, not_mem_escape]

def isBare (c : Char) : Bool := c.isDigit || c == '-' || c == '.' || c.isLower

theorem isBare_of_mem_toDigits {n : Nat} : ∀ c ∈ Nat.toDigits 10 n, isBare c = true := by
  intro c hc
  have hdigit := isDigit_of_mem_toDigits hc
  rw [isBare, hdigit]
  rfl

theorem isBare_of_mem_writeInt {n : Int} : ∀ c ∈ writeInt n, isBare c = true := by
  rw [writeInt]
  split
  · exact List.forall_mem_cons.2 ⟨by decide, isBare_of_mem_toDigits⟩
  · exact isBare_of_mem_toDigits

theorem isBare_of_mem_positional {d : Scientific} : ∀ c ∈ d.positional, isBare c = true := by
  have hdigits : ∀ c ∈ d.digits, isBare c = true := isBare_of_mem_toDigits
  have hzeros : ∀ n, ∀ c ∈ List.replicate n '0', isBare c = true := by
    intro n c hc
    rw [(List.mem_replicate.1 hc).2]
    decide
  simp only [Scientific.positional]
  split
  · exact List.forall_mem_append.2 ⟨hdigits, hzeros _⟩
  · split
    · refine List.forall_mem_append.2 ⟨fun c hc => hdigits c (List.mem_of_mem_take hc), ?_⟩
      exact List.forall_mem_cons.2 ⟨by decide, fun c hc => hdigits c (List.mem_of_mem_drop hc)⟩
    · refine List.forall_mem_cons.2 ⟨by decide, List.forall_mem_cons.2 ⟨by decide, ?_⟩⟩
      exact List.forall_mem_append.2 ⟨hzeros _, hdigits⟩

theorem isBare_of_mem_writeFloat {x : Binary64} : ∀ c ∈ writeFloat x, isBare c = true := by
  have hmagnitude : ∀ c ∈ if x.isZero then ['0'] else x.shortest.positional,
      isBare c = true := by
    split
    · exact List.forall_mem_singleton.2 (by decide)
    · exact isBare_of_mem_positional
  rw [writeFloat]
  split
  · rw [Binary64.positional, Binary64.signed]
    split
    · exact List.forall_mem_cons.2 ⟨by decide, hmagnitude⟩
    · exact hmagnitude
  · exact List.all_eq_true.1 (by decide)

theorem not_mem_of_isBare {cs : List Char} (h : ∀ c ∈ cs, isBare c = true) : '\n' ∉ cs :=
  fun hmem => absurd (h _ hmem) (by decide)

mutual

/-- The compact form of a value is on one line. -/
theorem not_mem_write (level : Nat) (v : Value) : '\n' ∉ write .compact level v := by
  match v with
  | .null =>
      rw [write]
      decide
  | .boolean b =>
      rw [write]
      cases b <;> decide
  | .integer n => exact not_mem_of_isBare isBare_of_mem_writeInt
  | .float x => exact not_mem_of_isBare isBare_of_mem_writeFloat
  | .string s => exact not_mem_writeString s
  | .array [] | .object [] =>
      rw [write]
      decide
  | .array (v :: vs) =>
      simp [write, Layout.lineBreak, not_mem_write _ v, not_mem_writeItems _ vs]
  | .object ((name, v) :: rest) =>
      simp [write, Layout.lineBreak, Layout.colon, not_mem_writeString, not_mem_write _ v,
        not_mem_writeFields _ rest]

theorem not_mem_writeItems (level : Nat) (vs : List Value) :
    '\n' ∉ writeItems .compact level vs := by
  match vs with
  | [] => simp [writeItems, Layout.lineBreak]
  | v :: vs =>
      simp [writeItems, Layout.lineBreak, not_mem_write _ v, not_mem_writeItems _ vs]

theorem not_mem_writeFields (level : Nat) (fields : List (String × Value)) :
    '\n' ∉ writeFields .compact level fields := by
  match fields with
  | [] => simp [writeFields, Layout.lineBreak]
  | (name, v) :: rest =>
      simp [writeFields, Layout.lineBreak, Layout.colon, not_mem_writeString,
        not_mem_write _ v, not_mem_writeFields _ rest]

end

end Json

theorem newlines_toJson (v : Value) : newlines v.toJson = 0 := by
  rw [newlines_eq_zero_iff, Value.toJson, Json.render, String.toList_ofList]
  exact Json.not_mem_write 0 v.normalize

end RecordFilter
