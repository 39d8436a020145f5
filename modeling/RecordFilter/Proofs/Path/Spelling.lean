import RecordFilter.Proofs.Path.RoundTrip
import RecordFilter.Proofs.Text.Splitting

/-!
# Paths are told apart by their texts

A path is legible if its keys are spelled as they were read and nothing is looked up in a
position. The paths of a query are legible, and so are those to the cells of a row. Legible
paths are told apart by their texts, whatever their roots (`text_inj`), and a text that goes
on behind a path with a character that no path holds has only one path in front
(`text_append_inj`).

Steps are read back from their text, so the roots are what is left to tell apart. A path into
the record may start like a path to a cell, with a number in brackets; but the name `$i` would
stand behind a dot there, and not in brackets.
-/

namespace RecordFilter.Path

/-- The keys are spelled as they were read, and no step is taken from a position. -/
structure Legible (path : Path) : Prop where
  spelled : ∀ s ∈ path.steps, s.key.Spelled
  index : path.root = .index → path.steps = []

theorem legible_of_read? {chain : Bool} {raw : String} {path : Path}
    (h : read? chain raw = some path) : path.Legible := by
  rcases cases_of_read? h with rfl | ⟨hroot, hsteps⟩
  · exact ⟨List.forall_mem_nil _, fun _ => rfl⟩
  · refine ⟨fun s hs => (hsteps s hs).1, fun hindex => ?_⟩
    rw [hroot] at hindex
    cases hindex

theorem stepsText_inj {ss ts : List Step} (hss : ∀ s ∈ ss, s.key.Spelled)
    (hts : ∀ s ∈ ts, s.key.Spelled) (h : stepsText ss = stepsText ts) : ss = ts := by
  have hread : ∀ {ss : List Step}, (∀ s ∈ ss, s.key.Spelled) →
      readSteps false .between false (stepsText ss) = ss := by
    intro ss hss
    rw [readSteps_stepsText false hss]
    refine (List.map_congr_left fun s _ => ?_).trans (List.map_id _)
    rw [Bool.or_false]
    rfl
  rw [← hread hss, h, hread hts]

theorem eq_of_text_eq_bracket {s : Step} (hs : s.key.Spelled) {name rest tail : List Char}
    (hname : ∀ c ∈ name, c ≠ ']')
    (h : s.text.toList ++ rest = '[' :: (name ++ ']' :: tail)) :
    s.key.text.toList = name ∧ s.key.isPlain = false ∧ rest = tail := by
  rw [Step.toList_text] at h
  cases hoptional : s.optional with
  | true => simp [hoptional] at h
  | false =>
      cases hplain : s.key.isPlain with
      | true => simp [hoptional, hplain] at h
      | false =>
          simp only [hoptional, hplain, Bool.false_eq_true, if_false, List.nil_append,
            List.cons_append, List.append_assoc, List.cons.injEq, true_and] at h
          have hsplit := append_inj_of_head (p := fun c => c != ']')
            (fun c hc => bne_iff_ne.2 (hs.allowed c hc).2) (fun c hc => bne_iff_ne.2 (hname c hc))
            (by simp) (by simp) h
          exact ⟨hsplit.1, rfl, by simpa using hsplit.2⟩

theorem toList_text_column (n : Nat) :
    (Root.column n).text.toList = '$' :: '[' :: (Nat.toDigits 10 n ++ "][$i]".toList) := by
  rw [Root.text, String.toList_append, String.toList_append, toList_toString]
  rfl

theorem ne_of_mem_toDigits {n : Nat} : ∀ c ∈ Nat.toDigits 10 n, c ≠ ']' := by
  rintro c hc rfl
  exact absurd (isDigit_of_mem_toDigits hc) (by decide)

/-- The key of the name of the position stands behind a dot. -/
theorem isPlain_of_text_eq {k : Key} (hk : k.Spelled) (h : k.text.toList = ['$', 'i']) :
    k.isPlain = true := by
  have htext : k.text = "$i" := String.toList_inj.1 h
  rw [← hk.ofName_text, htext]
  decide

/-- No path into the record has the text of a path to a cell. -/
theorem stepsText_ne_column {ss : List Step} (hss : ∀ s ∈ ss, s.key.Spelled) (n : Nat)
    (tail : List Char) :
    stepsText ss ≠ '[' :: (Nat.toDigits 10 n ++ "][$i]".toList ++ tail) := by
  intro h
  cases ss with
  | nil => cases h
  | cons s rest =>
      rw [List.forall_mem_cons] at hss
      have hname : '[' :: (Nat.toDigits 10 n ++ "][$i]".toList ++ tail) =
          '[' :: (Nat.toDigits 10 n ++ ']' :: ("[$i]".toList ++ tail)) := by
        rw [List.append_assoc]
        rfl
      rw [stepsText, List.flatMap_cons, hname] at h
      obtain ⟨-, -, hrest⟩ := eq_of_text_eq_bracket hss.1 ne_of_mem_toDigits h
      cases rest with
      | nil => cases hrest
      | cons s' rest =>
          rw [List.forall_mem_cons] at hss
          have hposition : ∀ c ∈ ['$', 'i'], c ≠ ']' := by simp
          obtain ⟨htext, hplain, -⟩ := eq_of_text_eq_bracket hss.2.1 hposition hrest
          rw [isPlain_of_text_eq hss.2.1 htext] at hplain
          cases hplain

theorem column_text_inj {m n : Nat} {s t : List Char}
    (h : Nat.toDigits 10 m ++ "][$i]".toList ++ s = Nat.toDigits 10 n ++ "][$i]".toList ++ t) :
    m = n ∧ s = t := by
  rw [List.append_assoc, List.append_assoc] at h
  obtain ⟨hnumber, hrest⟩ := toDigits_append_inj (by simp) (by simp) h
  exact ⟨hnumber, List.append_cancel_left hrest⟩

theorem text_inj {p q : Path} (hp : p.Legible) (hq : q.Legible) (h : p.text = q.text) : p = q := by
  have hlist := congrArg String.toList h
  rw [toList_text, toList_text] at hlist
  obtain ⟨root, ss⟩ := p
  obtain ⟨root', ts⟩ := q
  have hindex : Root.index.text.toList = ['$', 'i'] := by decide
  have hhead : ∀ {ss : List Step} {tail : List Char}, stepsText ss ≠ 'i' :: tail := by
    intro ss tail heq
    have hhead := isNameChar_head_stepsText ss
    rw [heq] at hhead
    exact absurd (hhead 'i' rfl) (by decide)
  cases root with
  | record =>
      cases root' with
      | record =>
          rw [List.append_cancel_left_eq] at hlist
          obtain rfl : ss = ts := stepsText_inj hp.spelled hq.spelled hlist
          rfl
      | index =>
          rw [toList_text_record, hindex] at hlist
          exact absurd (List.cons.inj hlist).2 hhead
      | column n =>
          rw [toList_text_record, toList_text_column] at hlist
          exact absurd (List.cons.inj hlist).2 (stepsText_ne_column hp.spelled n _)
  | index =>
      cases root' with
      | record =>
          rw [toList_text_record, hindex] at hlist
          exact absurd (List.cons.inj hlist).2.symm hhead
      | index =>
          obtain rfl : ss = [] := hp.index rfl
          obtain rfl : ts = [] := hq.index rfl
          rfl
      | column n =>
          rw [hindex, toList_text_column] at hlist
          cases hlist
  | column n =>
      cases root' with
      | record =>
          rw [toList_text_record, toList_text_column] at hlist
          exact absurd (List.cons.inj hlist).2.symm (stepsText_ne_column hq.spelled n _)
      | index =>
          rw [hindex, toList_text_column] at hlist
          cases hlist
      | column m =>
          rw [toList_text_column, toList_text_column] at hlist
          obtain ⟨rfl, hsteps⟩ := column_text_inj (List.cons.inj (List.cons.inj hlist).2).2
          obtain rfl : ss = ts := stepsText_inj hp.spelled hq.spelled hsteps
          rfl

theorem exists_cons_text (path : Path) : ∃ cs, path.text.toList = '$' :: cs := by
  rw [toList_text]
  cases path.root with
  | record => exact ⟨_, rfl⟩
  | index => exact ⟨_, rfl⟩
  | column n =>
      rw [toList_text_column]
      exact ⟨_, rfl⟩

theorem isAllowed_text {path : Path} (h : path.Legible) :
    ∀ c ∈ path.text.toList, isAllowed c = true := by
  have hroot : ∀ c ∈ path.root.text.toList, isAllowed c = true := by
    cases path.root with
    | record | index => exact List.all_eq_true.1 (by decide)
    | column n =>
        have hdigits : ∀ c ∈ Nat.toDigits 10 n, isAllowed c = true := by
          intro c hc
          simp [isAllowed, isNameChar, Char.isAlphanum, isDigit_of_mem_toDigits hc]
        rw [toList_text_column]
        refine List.forall_mem_cons.2 ⟨by decide, List.forall_mem_cons.2 ⟨by decide, ?_⟩⟩
        exact List.forall_mem_append.2 ⟨hdigits, List.all_eq_true.1 (by decide)⟩
  rw [toList_text]
  exact List.forall_mem_append.2 ⟨hroot, isAllowed_stepsText h.spelled⟩

/-- A text has one path in front of what no path goes on with. -/
theorem Legible.text_append_inj {p q : Path} (hp : p.Legible) (hq : q.Legible) {s t : List Char}
    (hs : ∀ c ∈ s.head?, isAllowed c = false) (ht : ∀ c ∈ t.head?, isAllowed c = false)
    (h : p.text.toList ++ s = q.text.toList ++ t) : p = q ∧ s = t := by
  obtain ⟨htext, hst⟩ := append_inj_of_head (isAllowed_text hp) (isAllowed_text hq) hs ht h
  exact ⟨text_inj hp hq (String.toList_inj.1 htext), hst⟩

end RecordFilter.Path
