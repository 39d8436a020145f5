import RecordFilter.Proofs.Json.Lines

/-!
# Blanks between the tokens of a document

A scan over a JSON text knows of every character whether it stands in a string literal
(`marked`): a quote opens a literal and closes it, and behind a backslash any character is
part of it. `unspaced` takes out the spaces and line ends that stand in no literal.

The compact and the indented form of a value are the same document (`Respaced`): without
these blanks the indented form is the compact one, which has none of them, and in neither
does a literal hold a line end. What carries this through arrays and objects is that a scan
is between literals again behind each piece that is written, so the pieces may be compared
one by one (`Respaced.append`).
-/

namespace RecordFilter.Json

/-- What a scan is in the middle of: nothing, a string literal, or an escape in one. -/
inductive Lexing where
  | between
  | literal
  | escape
  deriving DecidableEq

namespace Lexing

def next : Lexing → Char → Lexing
  | between, c => if c = '"' then literal else between
  | literal, c => if c = '"' then between else if c = '\\' then escape else literal
  | escape, _ => literal

def after (state : Lexing) (cs : List Char) : Lexing := cs.foldl next state

theorem after_cons (state : Lexing) (c : Char) (cs : List Char) :
    state.after (c :: cs) = (state.next c).after cs := rfl

theorem after_append (state : Lexing) (cs ds : List Char) :
    state.after (cs ++ ds) = (state.after cs).after ds := List.foldl_append

end Lexing

/-- The characters of a text, each with whether it stands in a string literal. -/
def marked : Lexing → List Char → List (Char × Bool)
  | _, [] => []
  | state, c :: cs => (c, state != .between) :: marked (state.next c) cs

theorem marked_append (state : Lexing) (cs ds : List Char) :
    marked state (cs ++ ds) = marked state cs ++ marked (state.after cs) ds := by
  induction cs generalizing state with
  | nil => rfl
  | cons c cs ih => rw [List.cons_append, marked, marked, ih, List.cons_append, Lexing.after_cons]

def isSpacing : Char × Bool → Bool
  | (c, inLiteral) => !inLiteral && (c == ' ' || c == '\n')

def unspaced (cs : List Char) : List Char :=
  ((marked .between cs).filter fun entry => !isSpacing entry).map Prod.fst

/-- A document as it is written with blanks and without them. -/
structure Respaced (wide narrow : List Char) : Prop where
  after_wide : Lexing.between.after wide = .between
  after_narrow : Lexing.between.after narrow = .between
  unspaced_wide : unspaced wide = narrow
  spacing : ∀ entry ∈ marked .between narrow, isSpacing entry = false
  unbroken_wide : ('\n', true) ∉ marked .between wide
  unbroken_narrow : ('\n', true) ∉ marked .between narrow

namespace Respaced

theorem append {wide narrow wide' narrow' : List Char} (h : Respaced wide narrow)
    (h' : Respaced wide' narrow') : Respaced (wide ++ wide') (narrow ++ narrow') where
  after_wide := by rw [Lexing.after_append, h.after_wide, h'.after_wide]
  after_narrow := by rw [Lexing.after_append, h.after_narrow, h'.after_narrow]
  unspaced_wide := by
    rw [unspaced, marked_append, h.after_wide, List.filter_append, List.map_append]
    exact congrArg₂ _ h.unspaced_wide h'.unspaced_wide
  spacing := by
    rw [marked_append, h.after_narrow]
    exact List.forall_mem_append.2 ⟨h.spacing, h'.spacing⟩
  unbroken_wide := by
    rw [marked_append, h.after_wide, List.mem_append]
    exact not_or.2 ⟨h.unbroken_wide, h'.unbroken_wide⟩
  unbroken_narrow := by
    rw [marked_append, h.after_narrow, List.mem_append]
    exact not_or.2 ⟨h.unbroken_narrow, h'.unbroken_narrow⟩

theorem self {cs : List Char} (hafter : Lexing.between.after cs = .between)
    (hspacing : ∀ entry ∈ marked .between cs, isSpacing entry = false)
    (hunbroken : ('\n', true) ∉ marked .between cs) : Respaced cs cs where
  after_wide := hafter
  after_narrow := hafter
  unspaced_wide := by
    have hmap : ∀ state, (marked state cs).map Prod.fst = cs := by
      clear hafter hspacing hunbroken
      induction cs with
      | nil => exact fun _ => rfl
      | cons c cs ih =>
          intro state
          rw [marked, List.map_cons, ih]
    rw [unspaced, List.filter_eq_self.2, hmap]
    intro entry hentry
    rw [hspacing entry hentry]
    rfl
  spacing := hspacing
  unbroken_wide := hunbroken
  unbroken_narrow := hunbroken

end Respaced

theorem after_between {cs : List Char} (h : ∀ c ∈ cs, c ≠ '"') :
    Lexing.between.after cs = .between := by
  induction cs with
  | nil => rfl
  | cons c cs ih =>
      rw [List.forall_mem_cons] at h
      rw [Lexing.after_cons, Lexing.next, if_neg h.1, ih h.2]

theorem marked_between {cs : List Char} (h : ∀ c ∈ cs, c ≠ '"') :
    marked .between cs = cs.map fun c => (c, false) := by
  induction cs with
  | nil => rfl
  | cons c cs ih =>
      rw [List.forall_mem_cons] at h
      rw [marked, Lexing.next, if_neg h.1, ih h.2]
      rfl

theorem respaced_bare {cs : List Char} (h : ∀ c ∈ cs, c ≠ '"' ∧ c ≠ ' ' ∧ c ≠ '\n') :
    Respaced cs cs := by
  have hquote : ∀ c ∈ cs, c ≠ '"' := fun c hc => (h c hc).1
  refine .self (after_between hquote) ?_ ?_
  · rw [marked_between hquote]
    intro entry hentry
    obtain ⟨c, hc, rfl⟩ := List.mem_map.1 hentry
    simp [isSpacing, h c hc]
  · rw [marked_between hquote]
    simp

theorem respaced_of_isBare {cs : List Char} (h : ∀ c ∈ cs, isBare c = true) :
    Respaced cs cs := by
  apply respaced_bare
  intro c hc
  have hbare := h c hc
  refine ⟨?_, ?_, ?_⟩ <;> rintro rfl <;> exact absurd hbare (by decide)

theorem respaced_blanks {cs : List Char} (h : ∀ c ∈ cs, c = ' ' ∨ c = '\n') :
    Respaced cs [] := by
  have hquote : ∀ c ∈ cs, c ≠ '"' := by
    intro c hc
    rcases h c hc with rfl | rfl <;> decide
  refine ⟨after_between hquote, rfl, ?_, List.forall_mem_nil _, ?_, List.not_mem_nil⟩
  · rw [unspaced, marked_between hquote, List.map_eq_nil_iff, List.filter_eq_nil_iff]
    intro entry hentry
    obtain ⟨c, hc, rfl⟩ := List.mem_map.1 hentry
    rcases h c hc with rfl | rfl <;> decide
  · rw [marked_between hquote]
    simp

theorem respaced_lineBreak (level : Nat) :
    Respaced (Layout.indented.lineBreak level) (Layout.compact.lineBreak level) := by
  apply respaced_blanks
  refine List.forall_mem_cons.2 ⟨.inr rfl, fun c hc => .inl ?_⟩
  exact (List.mem_replicate.1 hc).2

theorem respaced_colon : Respaced Layout.indented.colon Layout.compact.colon := by
  have hcolon : Respaced [':'] [':'] := respaced_bare (by simp)
  exact hcolon.append (respaced_blanks (List.forall_mem_singleton.2 (.inl rfl)))

/-- A scan through a literal is in it behind each character that is written there, and all of
its way. -/
theorem scan_escapeChar (c : Char) : Lexing.literal.after (escapeChar c) = .literal ∧
    ∀ entry ∈ marked .literal (escapeChar c), entry.2 = true := by
  have hhex : ∀ n, hexDigit n ≠ '"' ∧ hexDigit n ≠ '\\' := by
    have hdigits : ∀ k < 16, Nat.digitChar k ≠ '"' ∧ Nat.digitChar k ≠ '\\' := by decide
    exact fun n => hdigits _ (Nat.mod_lt n (by decide))
  rw [escapeChar]
  split
  · decide
  split
  · decide
  split
  · decide
  split
  · decide
  split
  · decide
  · next hquote hbackslash _ _ _ =>
      split
      · simp [Lexing.after, marked, hhex, Lexing.next]
      · simp [Lexing.after, marked, Lexing.next, hquote, hbackslash]

theorem scan_escape (cs : List Char) : Lexing.literal.after (escape cs) = .literal ∧
    ∀ entry ∈ marked .literal (escape cs), entry.2 = true := by
  induction cs with
  | nil => exact ⟨rfl, List.forall_mem_nil _⟩
  | cons c cs ih =>
      obtain ⟨hafter, hmarked⟩ := scan_escapeChar c
      rw [escape, Lexing.after_append, marked_append, hafter]
      exact ⟨ih.1, List.forall_mem_append.2 ⟨hmarked, ih.2⟩⟩

theorem mem_of_mem_marked {state : Lexing} {cs : List Char} {entry : Char × Bool}
    (h : entry ∈ marked state cs) : entry.1 ∈ cs := by
  induction cs generalizing state with
  | nil => cases h
  | cons c cs ih =>
      rcases List.mem_cons.1 h with rfl | h
      · exact List.mem_cons_self
      · exact List.mem_cons_of_mem _ (ih h)

/-- String literals are written alike, and blanks in them are part of them. -/
theorem respaced_writeString (s : String) : Respaced (writeString s) (writeString s) := by
  obtain ⟨hafter, hmarked⟩ := scan_escape s.toList
  have hscan : marked .between (writeString s) =
      ('"', false) :: (marked .literal (escape s.toList) ++ [('"', true)]) := by
    rw [writeString, marked, Lexing.next, if_pos rfl, marked_append, hafter]
    rfl
  refine .self ?_ ?_ fun hmem => not_mem_writeString s (mem_of_mem_marked hmem)
  · rw [writeString, Lexing.after_cons, Lexing.next, if_pos rfl, Lexing.after_append, hafter]
    rfl
  · rw [hscan]
    refine List.forall_mem_cons.2 ⟨by decide, List.forall_mem_append.2 ⟨?_, by decide⟩⟩
    rintro ⟨c, inLiteral⟩ hentry
    have hin : inLiteral = true := hmarked _ hentry
    rw [isSpacing, hin]
    rfl

theorem Respaced.cons {c : Char} (hc : c ≠ '"' ∧ c ≠ ' ' ∧ c ≠ '\n') {wide narrow : List Char}
    (h : Respaced wide narrow) : Respaced (c :: wide) (c :: narrow) :=
  (respaced_bare (List.forall_mem_singleton.2 hc)).append h

mutual

theorem respaced_write (level : Nat) (v : Value) :
    Respaced (write .indented level v) (write .compact level v) := by
  match v with
  | .null =>
      rw [write, write]
      exact respaced_of_isBare (List.all_eq_true.1 (by decide))
  | .boolean b =>
      rw [write, write]
      cases b <;> exact respaced_of_isBare (List.all_eq_true.1 (by decide))
  | .integer n => exact respaced_of_isBare isBare_of_mem_writeInt
  | .float x => exact respaced_of_isBare isBare_of_mem_writeFloat
  | .string s => exact respaced_writeString s
  | .array [] | .object [] =>
      rw [write, write]
      exact respaced_bare (by simp)
  | .array (v :: vs) =>
      rw [write, write]
      exact .cons (by decide) (((respaced_lineBreak _).append (respaced_write _ v)).append
        (respaced_writeItems level vs))
  | .object ((name, v) :: rest) =>
      rw [write, write]
      exact .cons (by decide) (((((respaced_lineBreak _).append (respaced_writeString name)).append
        respaced_colon).append (respaced_write _ v)).append (respaced_writeFields level rest))

theorem respaced_writeItems (level : Nat) (vs : List Value) :
    Respaced (writeItems .indented level vs) (writeItems .compact level vs) := by
  match vs with
  | [] =>
      rw [writeItems, writeItems]
      exact (respaced_lineBreak _).append (respaced_bare (by simp))
  | v :: vs =>
      rw [writeItems, writeItems]
      exact .cons (by decide) (((respaced_lineBreak _).append (respaced_write _ v)).append
        (respaced_writeItems level vs))

theorem respaced_writeFields (level : Nat) (fields : List (String × Value)) :
    Respaced (writeFields .indented level fields) (writeFields .compact level fields) := by
  match fields with
  | [] =>
      rw [writeFields, writeFields]
      exact (respaced_lineBreak _).append (respaced_bare (by simp))
  | (name, v) :: rest =>
      rw [writeFields, writeFields]
      exact .cons (by decide) (((((respaced_lineBreak _).append (respaced_writeString name)).append
        respaced_colon).append (respaced_write _ v)).append (respaced_writeFields level rest))

end

/-- Without the spaces and line ends that stand in no string literal the indented form of a
value is its compact form. The compact form has no such space and no such line end, and no
literal of either form holds a line end. -/
theorem unspaced_toJsonIndented (v : Value) :
    unspaced v.toJsonIndented.toList = v.toJson.toList ∧
      ((' ', false) ∉ marked .between v.toJson.toList ∧
        ('\n', false) ∉ marked .between v.toJson.toList) ∧
      ∀ layout, ('\n', true) ∉ marked .between (render layout v).toList := by
  have hforms : Respaced v.toJsonIndented.toList v.toJson.toList := by
    rw [Value.toJsonIndented, Value.toJson, render, render, String.toList_ofList,
      String.toList_ofList]
    exact respaced_write 0 v.normalize
  refine ⟨hforms.unspaced_wide, ⟨fun hmem => ?_, fun hmem => ?_⟩, fun layout => ?_⟩
  · exact absurd (hforms.spacing _ hmem) (by decide)
  · exact absurd (hforms.spacing _ hmem) (by decide)
  · cases layout with
    | compact => exact hforms.unbroken_narrow
    | indented => exact hforms.unbroken_wide

/-- A name that ends in a backslash, and blanks, a quote and a line end in a string. -/
example : (Value.object [("a \\", .array [.string "b \"\n, c", .integer 1])]).toJsonIndented =
    "\x7b\n  \"a \\\\\": [\n    \"b \\\"\\n, c\",\n    1\n  ]\n\x7d" := by
  cbv

end RecordFilter.Json
