import RecordFilter.Proofs.Path.NullSafe

/-!
# Reading the text of a path

The text of a path that was read is a path again, and it is the same one: the same root,
keys and null-safe marks (`read?_text`). This is so with null-safe chains if the path was
read with them, and without them in any case, as the text shows every mark. A text that is
read may spell the same steps in other ways, with separators in a row, with brackets that
hold plain names, or with a question mark that waits behind a separator; the text of a path
uses one of them for each step.

What makes a step readable is its key (`Key.Spelled`): it is the key that its own text
stands for, and the text is not empty and keeps to the characters that brackets can hold.
Every key comes from a text in this way (`spelled_of_mem_readSteps`). Going over the text
of such a step gives back the step, if no name goes on behind it (`readSteps_text`), and
the next step starts with a separator.

Characters that no path holds are dropped before the rest is read, so they make no
difference anywhere behind the first one.
-/

namespace RecordFilter

namespace Key

/-- The key is what its text stands for, and the text can stand in brackets. -/
structure Spelled (k : Key) : Prop where
  ofName_text : ofName k.text = k
  text_ne_nil : k.text.toList ≠ []
  allowed : ∀ c ∈ k.text.toList, Path.isAllowed c = true ∧ c ≠ ']'

/-- A key is spelled as it was read: only the canonical spelling of a number stands for an
index. -/
theorem text_ofName (name : String) : (ofName name).text = name := by
  unfold ofName
  split
  · next n _ =>
      split
      · next hn =>
          rw [Bool.and_eq_true, Bool.and_eq_true, decide_eq_true_iff, decide_eq_true_iff,
            beq_iff_eq] at hn
          obtain ⟨⟨hmin, hmax⟩, hname⟩ := hn
          have hlow : -2 ^ 63 ≤ n := hmin
          have hhigh : n < 2 ^ 63 := Int.lt_of_le_of_lt hmax (by decide)
          rw [text, Int64.toInt_ofInt_of_le hlow hhigh, hname]
      · rfl
  · rfl

theorem spelled_ofName {name : List Char} (hne : name ≠ [])
    (h : ∀ c ∈ name, Path.isAllowed c = true ∧ c ≠ ']') :
    (ofName (String.ofList name)).Spelled where
  ofName_text := by rw [text_ofName]
  text_ne_nil := by
    rw [text_ofName, String.toList_ofList]
    exact hne
  allowed := by
    rw [text_ofName, String.toList_ofList]
    exact h

theorem isNameChar_of_isPlain {k : Key} (h : k.isPlain = true) :
    ∀ c ∈ k.text.toList, isNameChar c = true := by
  cases k with
  | field name => exact List.all_eq_true.1 h
  | index position => cases h

end Key

namespace Path

theorem ne_of_isNameChar {c d : Char} (hc : isNameChar c = true) (hd : isNameChar d = false) :
    c ≠ d := by
  rintro rfl
  rw [hc] at hd
  cases hd

theorem isAllowed_of_isNameChar {c : Char} (h : isNameChar c = true) :
    isAllowed c = true ∧ c ≠ ']' := by
  constructor
  · rw [isAllowed, h]
    rfl
  · exact ne_of_isNameChar h (by decide)

def Scan.read : Scan → List Char
  | between => []
  | name read => read
  | bracket read => read

theorem spelled_of_mem_stepOf {optional : Bool} {name : List Char}
    (h : ∀ c ∈ name, isAllowed c = true ∧ c ≠ ']') :
    ∀ s ∈ stepOf optional name, s.key.Spelled := by
  intro s hs
  rw [stepOf] at hs
  split at hs
  · cases hs
  · next hne =>
      rw [List.mem_singleton] at hs
      subst hs
      apply Key.spelled_ofName
      · simpa using hne
      · intro c hc
        exact h c (List.mem_reverse.1 hc)

theorem spelled_of_mem_readSteps (chain : Bool) (scan : Scan) (waiting : Bool)
    (cs : List Char) (hscan : ∀ c ∈ scan.read, isAllowed c = true ∧ c ≠ ']')
    (hcs : ∀ c ∈ cs, isAllowed c = true) :
    ∀ s ∈ readSteps chain scan waiting cs, s.key.Spelled := by
  fun_induction readSteps chain scan waiting cs with
  | case1 waiting =>
      intro s hs
      cases hs
  | case2 read waiting | case3 read waiting => exact spelled_of_mem_stepOf hscan
  | case4 waiting c cs _ ih | case5 waiting c cs _ _ ih | case7 waiting c cs _ _ _ ih =>
      exact ih (by simp [Scan.read]) (List.forall_mem_cons.1 hcs).2
  | case6 waiting c cs _ _ hname ih =>
      apply ih _ (List.forall_mem_cons.1 hcs).2
      exact List.forall_mem_singleton.2 (isAllowed_of_isNameChar hname)
  | case8 read waiting c cs hname ih =>
      apply ih _ (List.forall_mem_cons.1 hcs).2
      exact List.forall_mem_cons.2 ⟨isAllowed_of_isNameChar hname, hscan⟩
  | case9 read waiting c cs _ ihquestion ihbracket ihdot =>
      have hrest := (List.forall_mem_cons.1 hcs).2
      intro s hs
      rw [List.mem_append] at hs
      rcases hs with hs | hs
      · exact spelled_of_mem_stepOf hscan s hs
      · split at hs
        · exact ihquestion (by simp [Scan.read]) hrest s hs
        · split at hs
          · exact ihbracket (by simp [Scan.read]) hrest s hs
          · exact ihdot (by simp [Scan.read]) hrest s hs
  | case10 read waiting c cs _ ih =>
      intro s hs
      rw [List.mem_append] at hs
      rcases hs with hs | hs
      · exact spelled_of_mem_stepOf hscan s hs
      · exact ih (by simp [Scan.read]) (List.forall_mem_cons.1 hcs).2 s hs
  | case11 read waiting c cs hclosing ih =>
      obtain ⟨hc, hrest⟩ := List.forall_mem_cons.1 hcs
      apply ih _ hrest
      exact List.forall_mem_cons.2 ⟨⟨hc, by simpa using hclosing⟩, hscan⟩

/-- A spelled key is read from its characters, which a pass holds in reverse. -/
theorem stepOf_text {k : Key} (h : k.Spelled) (optional : Bool) :
    stepOf optional k.text.toList.reverse = [⟨k, optional⟩] := by
  rw [stepOf, if_neg (by simpa using h.text_ne_nil), List.reverse_reverse, String.ofList_toList,
    h.ofName_text]

section Pass

variable (chain waiting : Bool) {name rest : List Char}

/-- A name ends where no name can go on. -/
theorem readSteps_name (read : List Char) (hname : ∀ c ∈ name, isNameChar c = true)
    (hrest : ∀ c ∈ rest.head?, isNameChar c = false) :
    readSteps chain (.name read) waiting (name ++ rest) =
      stepOf (waiting || chain) (name.reverse ++ read) ++
        readSteps chain .between false rest := by
  induction name generalizing read with
  | nil =>
      cases rest with
      | nil => rw [List.nil_append, readSteps, readSteps, List.append_nil]; rfl
      | cons c rest =>
          have hc : isNameChar c = false := hrest c rfl
          rw [List.nil_append, readSteps, readSteps, hc]
          rfl
  | cons c name ih =>
      obtain ⟨hc, hname⟩ := List.forall_mem_cons.1 hname
      rw [List.cons_append, readSteps, if_pos hc, ih _ hname, List.reverse_cons,
        List.append_assoc, List.singleton_append]

theorem readSteps_bracket (read : List Char) (hname : ∀ c ∈ name, c ≠ ']') :
    readSteps chain (.bracket read) waiting (name ++ ']' :: rest) =
      stepOf (waiting || chain) (name.reverse ++ read) ++
        readSteps chain .between (waiting && (name.reverse ++ read).isEmpty) rest := by
  induction name generalizing read with
  | nil => rw [List.nil_append, readSteps, if_pos (by decide)]; rfl
  | cons c name ih =>
      obtain ⟨hc, hname⟩ := List.forall_mem_cons.1 hname
      rw [List.cons_append, readSteps, if_neg (by simpa using hc), ih _ hname,
        List.reverse_cons, List.append_assoc, List.singleton_append]

theorem readSteps_plain {k : Key} (h : k.Spelled) (hplain : k.isPlain = true)
    (hrest : ∀ c ∈ rest.head?, isNameChar c = false) :
    readSteps chain .between waiting (k.text.toList ++ rest) =
      ⟨k, waiting || chain⟩ :: readSteps chain .between false rest := by
  have hstep := stepOf_text h (waiting || chain)
  have hname := k.isNameChar_of_isPlain hplain
  obtain ⟨c, cs, hcs⟩ := List.exists_cons_of_ne_nil h.text_ne_nil
  rw [hcs] at hstep hname ⊢
  obtain ⟨hc, hname⟩ := List.forall_mem_cons.1 hname
  have hquestion : ¬ (c == '?') = true := by simpa using ne_of_isNameChar hc (by decide)
  have hbracket : ¬ (c == '[') = true := by simpa using ne_of_isNameChar hc (by decide)
  rw [List.cons_append, readSteps, if_neg hquestion, if_neg hbracket, if_pos hc,
    readSteps_name chain waiting [c] hname hrest, ← List.reverse_cons, hstep]
  rfl

theorem readSteps_bracketed {k : Key} (h : k.Spelled) :
    readSteps chain .between waiting ('[' :: (k.text.toList ++ ']' :: rest)) =
      ⟨k, waiting || chain⟩ :: readSteps chain .between false rest := by
  have hne : k.text.toList.reverse.isEmpty = false := by simpa using h.text_ne_nil
  rw [readSteps, if_neg (by decide), if_pos (by decide),
    readSteps_bracket chain waiting [] fun c hc => (h.allowed c hc).2, List.append_nil,
    stepOf_text h, hne, Bool.and_false]
  rfl

theorem readSteps_question (cs : List Char) :
    readSteps chain .between waiting ('?' :: cs) = readSteps chain .between true cs := by
  rw [readSteps, if_pos (by decide)]

theorem readSteps_dot (cs : List Char) :
    readSteps chain .between waiting ('.' :: cs) = readSteps chain .between waiting cs := by
  rw [readSteps, if_neg (by decide), if_neg (by decide), if_neg (by decide)]

end Pass

end Path

namespace Step

theorem toList_text (s : Step) :
    s.text.toList =
      (if s.optional then ['?', '.'] else if s.key.isPlain then ['.'] else []) ++
        if s.key.isPlain then s.key.text.toList else '[' :: (s.key.text.toList ++ [']']) := by
  rw [text]
  cases s.optional <;> cases s.key.isPlain <;> simp

theorem exists_cons_text (s : Step) :
    ∃ c cs, s.text.toList = c :: cs ∧ (c = '.' ∨ c = '[' ∨ c = '?') := by
  rw [toList_text]
  cases s.optional <;> cases s.key.isPlain <;> simp

theorem isAllowed_text {s : Step} (h : s.key.Spelled) :
    ∀ c ∈ s.text.toList, Path.isAllowed c = true := by
  have hkey : ∀ c ∈ s.key.text.toList, Path.isAllowed c = true := fun c hc => (h.allowed c hc).1
  have hmark : ∀ c ∈ ['?', '.', '[', ']'], Path.isAllowed c = true :=
    List.all_eq_true.1 (by decide)
  rw [toList_text]
  cases s.optional <;> cases s.key.isPlain <;> grind

end Step

namespace Path

def stepsText (steps : List Step) : List Char := steps.flatMap fun s => s.text.toList

theorem toList_text (path : Path) :
    path.text.toList = path.root.text.toList ++ stepsText path.steps := by
  rw [text, String.toList_append, String.toList_join, List.flatMap_map, stepsText]

theorem toList_text_record : Root.record.text.toList = ['$'] := by decide

theorem isNameChar_head_stepsText (steps : List Step) :
    ∀ c ∈ (stepsText steps).head?, isNameChar c = false := by
  cases steps with
  | nil =>
      intro c hc
      cases hc
  | cons s steps =>
      obtain ⟨c, cs, hcs, hc⟩ := s.exists_cons_text
      rw [stepsText, List.flatMap_cons, hcs, List.cons_append, List.head?_cons]
      rintro _ ⟨⟩
      rcases hc with rfl | rfl | rfl <;> decide

theorem readSteps_text (chain : Bool) {s : Step} (h : s.key.Spelled) {rest : List Char}
    (hrest : ∀ c ∈ rest.head?, isNameChar c = false) :
    readSteps chain .between false (s.text.toList ++ rest) =
      ⟨s.key, s.optional || chain⟩ :: readSteps chain .between false rest := by
  rw [Step.toList_text]
  cases hoptional : s.optional with
  | true =>
      rw [if_pos rfl, List.append_assoc, List.cons_append, List.singleton_append,
        readSteps_question, readSteps_dot]
      cases hplain : s.key.isPlain with
      | true => rw [if_pos rfl, readSteps_plain chain true h hplain hrest]
      | false =>
          rw [if_neg Bool.false_ne_true, List.cons_append, List.append_assoc,
            List.singleton_append, readSteps_bracketed chain true h]
  | false =>
      rw [if_neg Bool.false_ne_true]
      cases hplain : s.key.isPlain with
      | true =>
          rw [if_pos rfl, if_pos rfl, List.append_assoc, List.singleton_append, readSteps_dot,
            readSteps_plain chain false h hplain hrest]
      | false =>
          rw [if_neg Bool.false_ne_true, if_neg Bool.false_ne_true, List.nil_append,
            List.cons_append, List.append_assoc, List.singleton_append,
            readSteps_bracketed chain false h]

/-- Steps are read back with their marks, and with those of chains if there are any. -/
theorem readSteps_stepsText (chain : Bool) {steps : List Step}
    (h : ∀ s ∈ steps, s.key.Spelled) :
    readSteps chain .between false (stepsText steps) =
      steps.map fun s => ⟨s.key, s.optional || chain⟩ := by
  induction steps with
  | nil => rfl
  | cons s steps ih =>
      obtain ⟨hs, hsteps⟩ := List.forall_mem_cons.1 h
      have htext : stepsText (s :: steps) = s.text.toList ++ stepsText steps := List.flatMap_cons
      rw [htext, readSteps_text chain hs (isNameChar_head_stepsText steps), ih hsteps,
        List.map_cons]

theorem isAllowed_stepsText {steps : List Step} (h : ∀ s ∈ steps, s.key.Spelled) :
    ∀ c ∈ stepsText steps, isAllowed c = true := by
  intro c hc
  obtain ⟨s, hs, hcs⟩ := List.mem_flatMap.1 hc
  exact Step.isAllowed_text (h s hs) c hcs

theorem optional_of_mem_readSteps {scan : Scan} {waiting : Bool} {cs : List Char} {s : Step}
    (h : s ∈ readSteps true scan waiting cs) : s.optional = true := by
  rw [readSteps_true true, List.mem_map] at h
  obtain ⟨s', -, rfl⟩ := h
  rfl

/-- What is known of a path that was read: it is the position, or it sets out from the
record with spelled keys. -/
theorem cases_of_read? {chain : Bool} {raw : String} {path : Path}
    (h : read? chain raw = some path) :
    path = index ∨ path.root = .record ∧ ∀ s ∈ path.steps,
      s.key.Spelled ∧ (chain = true → s.optional = true) := by
  rw [read?] at h
  split at h
  · cases h
    exact .inr ⟨rfl, by simp [record]⟩
  · split at h
    · cases h
      exact .inl rfl
    · obtain ⟨cs, -, rfl⟩ := Option.map_eq_some_iff.1 h
      refine .inr ⟨rfl, fun s hs => ⟨?_, ?_⟩⟩
      · apply spelled_of_mem_readSteps chain .between false (cs.filter isAllowed)
          (by simp [Scan.read]) _ s hs
        intro c hc
        exact (List.mem_filter.1 hc).2
      · rintro rfl
        exact optional_of_mem_readSteps hs

theorem read?_of_body? (chain : Bool) {raw : String} {cs : List Char}
    (h : body? raw.toList = some cs) :
    read? chain raw = some ⟨.record, readSteps chain .between false (cs.filter isAllowed)⟩ := by
  have hrecord : raw ≠ "$" := by
    rintro rfl
    have hbody : body? "$".toList = none := by decide
    rw [hbody] at h
    cases h
  have hindex : raw ≠ "$i" := by
    rintro rfl
    have hbody : body? "$i".toList = none := by decide
    rw [hbody] at h
    cases h
  rw [read?, if_neg hrecord, if_neg hindex, h]
  rfl

theorem read?_text_of_spelled {chain : Bool} {steps : List Step}
    (h : ∀ s ∈ steps, s.key.Spelled ∧ (chain = true → s.optional = true)) :
    read? chain (Path.text ⟨.record, steps⟩) = some ⟨.record, steps⟩ := by
  cases steps with
  | nil => rfl
  | cons s rest =>
      have hspelled : ∀ t ∈ s :: rest, t.key.Spelled := fun t ht => (h t ht).1
      obtain ⟨c, cs, hcs, hc⟩ := s.exists_cons_text
      have htext : stepsText (s :: rest) = c :: (cs ++ stepsText rest) := by
        rw [stepsText, List.flatMap_cons, hcs, List.cons_append, stepsText]
      have hbody : body? (Path.text ⟨.record, s :: rest⟩).toList =
          some (c :: (cs ++ stepsText rest)) := by
        rw [toList_text, htext, toList_text_record]
        rcases hc with rfl | rfl | rfl <;> rfl
      have hmarks : (s :: rest).map (fun t => (⟨t.key, t.optional || chain⟩ : Step)) =
          s :: rest := by
        refine (List.map_congr_left fun t ht => ?_).trans (List.map_id _)
        have hmark : (t.optional || chain) = t.optional := by
          cases chain with
          | true => rw [(h t ht).2 rfl]; rfl
          | false => rw [Bool.or_false]
        rw [hmark]
        rfl
      rw [read?_of_body? chain hbody, ← htext,
        List.filter_eq_self.2 (isAllowed_stepsText hspelled), readSteps_stepsText _ hspelled,
        hmarks]

/-- Behind a separator a raw text is read by the characters that are kept. -/
theorem read?_ofList_cons (chain : Bool) {c : Char} (hc : c = '.' ∨ c = '[')
    (cs : List Char) :
    read? chain (String.ofList (c :: cs)) =
      some ⟨.record, readSteps chain .between false (c :: cs.filter isAllowed)⟩ := by
  have hbody : body? (String.ofList (c :: cs)).toList = some (c :: cs) := by
    rw [String.toList_ofList]
    rcases hc with rfl | rfl <;> rfl
  have hallowed : isAllowed c = true := by rcases hc with rfl | rfl <;> decide
  rw [read?_of_body? chain hbody, List.filter_cons_of_pos hallowed]

/-- The text of a path that was read keeps to the characters of paths, and it is read as
the same path, with null-safe chains if the path was, and without them. A text that starts
with a separator is a path, and the same one whichever characters that no path holds are
put into it or taken out of it behind the separator. -/
theorem read?_text (chain : Bool) :
    (∀ raw path, read? chain raw = some path →
      (∀ c ∈ path.text.toList, isAllowed c = true) ∧
        ∀ again, again = chain ∨ again = false → read? again path.text = some path) ∧
      ∀ c cs ds, c = '.' ∨ c = '[' → cs.filter isAllowed = ds.filter isAllowed →
        ∃ path, read? chain (String.ofList (c :: cs)) = some path ∧
          read? chain (String.ofList (c :: ds)) = some path := by
  refine ⟨fun raw path h => ?_, fun c cs ds hc hfilter => ?_⟩
  · rcases cases_of_read? h with rfl | ⟨hroot, hsteps⟩
    · exact ⟨List.all_eq_true.1 (by decide), fun again _ => rfl⟩
    · obtain ⟨root, steps⟩ := path
      cases hroot
      refine ⟨?_, fun again hagain => read?_text_of_spelled fun s hs => ?_⟩
      · rw [toList_text, toList_text_record]
        exact List.forall_mem_cons.2 ⟨by decide,
          isAllowed_stepsText fun s hs => (hsteps s hs).1⟩
      · refine ⟨(hsteps s hs).1, ?_⟩
        rintro rfl
        rcases hagain with hchain | hchain
        · exact (hsteps s hs).2 hchain.symm
        · cases hchain
  · refine ⟨_, read?_ofList_cons chain hc cs, ?_⟩
    rw [read?_ofList_cons chain hc ds, hfilter]

/-- Brackets that hold a dot, a question mark and a bracket, the last of them never closed,
and a mark that waits for its name. -/
theorem read?_text_brackets :
    (∃ path, read? false ".a?.[b.c][?d$][7].-0[x[y" = some path ∧
      path.text = "$.a?.[b.c][?d$][7].-0[x[y]" ∧ read? false path.text = some path) ∧
      read? false (String.ofList ('.' :: "a? [b!.c]".toList)) =
        read? false (String.ofList ('.' :: "a?[b.c]".toList)) := by
  constructor
  · refine ⟨⟨.record, [⟨.field "a", false⟩, ⟨.field "b.c", true⟩, ⟨.field "?d$", false⟩,
      ⟨.index 7, false⟩, ⟨.field "-0", false⟩, ⟨.field "x[y", false⟩]⟩, by decide, by decide, ?_⟩
    exact ((read?_text false).1 ".a?.[b.c][?d$][7].-0[x[y" _ (by decide)).2 false (.inl rfl)
  · obtain ⟨path, hleft, hright⟩ := (read?_text false).2 '.' "a? [b!.c]".toList
      "a?[b.c]".toList (.inl rfl) (by decide)
    rw [hleft, hright]

end Path

end RecordFilter
