import RecordFilter.Json.Reader
import RecordFilter.Proofs.Text.Splitting

/-!
# The grammar of JSON texts

Which texts are JSON, and what they stand for, as relations that follow the productions of
the standard grammar: blanks, string literals with their escapes, numbers, values, items,
fields. A number stands for what `Numeral.value?` makes of its parts, and an object has a
meaning if its names are all different.

The reader takes every text of the grammar for what it stands for (`value?_of_isValue`,
`read?_of_isText`), so no text stands for two values (`eq_of_isText`). It has to go on until
a number ends, which it does only if no character behind the number belongs to one
(`Closes`). Fuel and depth are not part of the grammar's idea of a text: two units of fuel
for each character are enough, since each bracket is followed by two calls.
-/

namespace RecordFilter.Json

/-! ### Productions -/

def IsBlanks (cs : List Char) : Prop :=
  ∀ c ∈ cs, c = ' ' ∨ c = '\t' ∨ c = '\n' ∨ c = '\r'

def IsHexDigit (k : Nat) (c : Char) : Prop :=
  k < 16 ∧ (c = Nat.digitChar k ∨ c = (Nat.digitChar k).toUpper)

inductive IsCode : Nat → List Char → Prop
  | digits {i j k l : Nat} {a b c d : Char} (ha : IsHexDigit i a) (hb : IsHexDigit j b)
      (hc : IsHexDigit k c) (hd : IsHexDigit l d) :
      IsCode (((i * 16 + j) * 16 + k) * 16 + l) [a, b, c, d]

def shortEscapes : List (Char × Char) :=
  [('"', '"'), ('\\', '\\'), ('/', '/'), ('b', '\x08'), ('f', '\x0c'), ('n', '\n'), ('r', '\r'),
    ('t', '\t')]

inductive IsChar : Char → List Char → Prop
  | plain {c : Char} (hcontrol : 0x20 ≤ c.toNat) (hquote : c ≠ '"') (hbackslash : c ≠ '\\') :
      IsChar c [c]
  | short {c e : Char} (h : (e, c) ∈ shortEscapes) : IsChar c ['\\', e]
  | code {n : Nat} {cs : List Char} (h : IsCode n cs) (hn : n < 0xD800 ∨ 0xE000 ≤ n) :
      IsChar (Char.ofNat n) ('\\' :: 'u' :: cs)
  | surrogates {m n : Nat} {cs ds : List Char} (hm : IsCode m cs) (hn : IsCode n ds)
      (hhigh : 0xD800 ≤ m ∧ m < 0xDC00) (hlow : 0xDC00 ≤ n ∧ n < 0xE000) :
      IsChar (Char.ofNat (0x10000 + (m - 0xD800) * 0x400 + (n - 0xDC00)))
        ('\\' :: 'u' :: cs ++ '\\' :: 'u' :: ds)

inductive IsChars : List Char → List Char → Prop
  | nil : IsChars [] []
  | cons {c : Char} {s cs ds : List Char} (hc : IsChar c cs) (hs : IsChars s ds) :
      IsChars (c :: s) (cs ++ ds)

inductive IsString : String → List Char → Prop
  | quoted {s : String} {cs : List Char} (h : IsChars s.toList cs) :
      IsString s ('"' :: (cs ++ ['"']))

def IsDigits (ds : List Char) : Prop := ds ≠ [] ∧ ∀ c ∈ ds, c.isDigit = true

inductive IsFraction : Option (List Char) → List Char → Prop
  | none : IsFraction none []
  | some {ds : List Char} (h : IsDigits ds) : IsFraction (some ds) ('.' :: ds)

inductive IsSign : Bool → List Char → Prop
  | none : IsSign false []
  | plus : IsSign false ['+']
  | minus : IsSign true ['-']

inductive IsExponent : Option Int → List Char → Prop
  | none : IsExponent none []
  | some {e : Char} {negative : Bool} {sign ds : List Char} (he : e = 'e' ∨ e = 'E')
      (hsign : IsSign negative sign) (h : IsDigits ds) :
      IsExponent (some (if negative then -(Nat.ofDigitChars 10 ds 0 : Int)
        else (Nat.ofDigitChars 10 ds 0 : Int))) (e :: (sign ++ ds))

/-- A number and its parts. No zero stands in front of other digits. -/
inductive IsNumber : Numeral → List Char → Prop
  | parts {negative : Bool} {whole fs es : List Char} {places : Option (List Char)}
      {exponent : Option Int} (hwhole : IsDigits whole)
      (hzero : whole.head? = some '0' → whole = ['0']) (hplaces : IsFraction places fs)
      (hexponent : IsExponent exponent es) :
      IsNumber ⟨negative, whole, places, exponent⟩
        ((if negative then ['-'] else []) ++ (whole ++ (fs ++ es)))

mutual

/-- The texts of values, where arrays and objects are nested at most `depth` deep. -/
inductive IsValue : Nat → Value → List Char → Prop
  | null {depth : Nat} : IsValue depth .null ['n', 'u', 'l', 'l']
  | true {depth : Nat} : IsValue depth (.boolean true) ['t', 'r', 'u', 'e']
  | false {depth : Nat} : IsValue depth (.boolean false) ['f', 'a', 'l', 's', 'e']
  | number {depth : Nat} {t : Numeral} {v : Value} {cs : List Char} (h : IsNumber t cs)
      (hv : t.value? = some v) : IsValue depth v cs
  | string {depth : Nat} {s : String} {cs : List Char} (h : IsString s cs) :
      IsValue depth (.string s) cs
  | emptyArray {depth : Nat} {ws : List Char} (hws : IsBlanks ws) :
      IsValue (depth + 1) (.array []) ('[' :: (ws ++ [']']))
  | array {depth : Nat} {vs : List Value} {cs : List Char} (h : IsItems depth vs cs) :
      IsValue (depth + 1) (.array vs) ('[' :: cs)
  | emptyObject {depth : Nat} {ws : List Char} (hws : IsBlanks ws) :
      IsValue (depth + 1) (.object []) ('\x7b' :: (ws ++ ['\x7d']))
  | object {depth : Nat} {fields : List (String × Value)} {cs : List Char}
      (h : IsFields depth fields cs) (hnames : (fields.map Prod.fst).Nodup) :
      IsValue (depth + 1) (.object fields) ('\x7b' :: cs)

inductive IsItems : Nat → List Value → List Char → Prop
  | last {depth : Nat} {v : Value} {ws cs ws' : List Char} (hws : IsBlanks ws)
      (hv : IsValue depth v cs) (hws' : IsBlanks ws') :
      IsItems depth [v] (ws ++ (cs ++ (ws' ++ [']'])))
  | more {depth : Nat} {v : Value} {vs : List Value} {ws cs ws' ds : List Char}
      (hws : IsBlanks ws) (hv : IsValue depth v cs) (hws' : IsBlanks ws')
      (hvs : IsItems depth vs ds) : IsItems depth (v :: vs) (ws ++ (cs ++ (ws' ++ ',' :: ds)))

inductive IsFields : Nat → List (String × Value) → List Char → Prop
  | last {depth : Nat} {field : String × Value} {ws cs ws' : List Char} (hws : IsBlanks ws)
      (hfield : IsField depth field cs) (hws' : IsBlanks ws') :
      IsFields depth [field] (ws ++ (cs ++ (ws' ++ ['\x7d'])))
  | more {depth : Nat} {field : String × Value} {fields : List (String × Value)}
      {ws cs ws' ds : List Char} (hws : IsBlanks ws) (hfield : IsField depth field cs)
      (hws' : IsBlanks ws') (hfields : IsFields depth fields ds) :
      IsFields depth (field :: fields) (ws ++ (cs ++ (ws' ++ ',' :: ds)))

inductive IsField : Nat → String × Value → List Char → Prop
  | named {depth : Nat} {name : String} {v : Value} {ns ws ws' cs : List Char}
      (hname : IsString name ns) (hws : IsBlanks ws) (hws' : IsBlanks ws')
      (hv : IsValue depth v cs) : IsField depth (name, v) (ns ++ (ws ++ ':' :: (ws' ++ cs)))

end

def IsText (depth : Nat) (v : Value) (text : String) : Prop :=
  ∃ ws cs ws', IsBlanks ws ∧ IsValue depth v cs ∧ IsBlanks ws' ∧ text.toList = ws ++ (cs ++ ws')

/-! ### Blanks and digits -/

theorem isBlank_of_isBlanks {ws : List Char} (h : IsBlanks ws) : ∀ c ∈ ws, isBlank c = true := by
  intro c hc
  rcases h c hc with rfl | rfl | rfl | rfl <;> rfl

theorem skipBlanks_append {ws : List Char} (h : IsBlanks ws) (cs : List Char) :
    skipBlanks (ws ++ cs) = skipBlanks cs :=
  List.dropWhile_append_of_pos (isBlank_of_isBlanks h)

theorem skipBlanks_cons {c : Char} (h : isBlank c = false) (cs : List Char) :
    skipBlanks (c :: cs) = c :: cs := by
  rw [skipBlanks, List.dropWhile_cons, h]
  rfl

theorem ne_of_isDigit {c d : Char} (hc : c.isDigit = true) (hd : d.isDigit = false) : c ≠ d := by
  rintro rfl
  rw [hc] at hd
  cases hd

/-- A rest that does not go on with a number. -/
def Closes (rest : List Char) : Prop :=
  ∀ c ∈ rest.head?, c.isDigit = false ∧ c ≠ '.' ∧ c ≠ 'e' ∧ c ≠ 'E'

theorem closes_nil : Closes [] := by
  rintro c ⟨⟩

theorem closes_cons {c : Char} (h : c.isDigit = false ∧ c ≠ '.' ∧ c ≠ 'e' ∧ c ≠ 'E')
    (rest : List Char) : Closes (c :: rest) := by
  rintro _ ⟨⟩
  exact h

theorem closes_append {ws rest : List Char} (h : IsBlanks ws) (hrest : Closes rest) :
    Closes (ws ++ rest) := by
  cases ws with
  | nil => exact hrest
  | cons c ws =>
      refine closes_cons ?_ _
      rcases h c List.mem_cons_self with rfl | rfl | rfl | rfl <;> decide

theorem splitDigits_append {ds rest : List Char} (hds : ∀ c ∈ ds, c.isDigit = true)
    (hrest : ∀ c ∈ rest.head?, c.isDigit = false) : splitDigits (ds ++ rest) = (ds, rest) := by
  obtain ⟨htake, hdrop⟩ := takeWhile_append_of_head hds hrest
  rw [splitDigits, htake, hdrop]

/-! ### Strings -/

theorem hexValue?_of_isHexDigit {k : Nat} {c : Char} (h : IsHexDigit k c) :
    hexValue? c = some k := by
  obtain ⟨hk, hc⟩ := h
  have hdigits : ∀ k < 16, hexValue? (Nat.digitChar k) = some k ∧
      hexValue? (Nat.digitChar k).toUpper = some k := by decide
  rcases hc with rfl | rfl
  · exact (hdigits k hk).1
  · exact (hdigits k hk).2

theorem shortEscape?_of_mem {e c : Char} (h : (e, c) ∈ shortEscapes) :
    shortEscape? e = some c ∧ e ≠ 'u' := by
  have hescapes : ∀ entry ∈ shortEscapes, shortEscape? entry.1 = some entry.2 ∧ entry.1 ≠ 'u' := by
    decide
  exact hescapes _ h

theorem exists_of_isCode {n : Nat} {cs : List Char} (h : IsCode n cs) :
    ∃ a b c d, cs = [a, b, c, d] ∧ hex4? a b c d = some n := by
  cases h with
  | digits ha hb hc hd =>
      refine ⟨_, _, _, _, rfl, ?_⟩
      rw [hex4?, hexValue?_of_isHexDigit ha, hexValue?_of_isHexDigit hb,
        hexValue?_of_isHexDigit hc, hexValue?_of_isHexDigit hd]
      rfl

theorem stringBody?_append {c : Char} {cs : List Char} (h : IsChar c cs) (rest : List Char) :
    stringBody? (cs ++ rest) = (stringBody? rest).map fun (s, rest) => (c :: s, rest) := by
  cases h with
  | plain hcontrol hquote hbackslash =>
      rw [List.singleton_append, stringBody?]
      · cases stringBody? rest <;> simp [Nat.not_lt.2 hcontrol, hbackslash]
      · exact hquote
      · exact fun _ _ _ _ _ h _ => hbackslash h
      · exact fun _ _ h _ => hbackslash h
  | short h =>
      obtain ⟨hescape, hu⟩ := shortEscape?_of_mem h
      rw [List.cons_append, List.singleton_append, stringBody?, hescape]
      · cases stringBody? rest <;> rfl
      · exact fun _ _ _ _ _ h _ => hu h
  | @code n _ h hn =>
      obtain ⟨_, _, _, _, rfl, hhex⟩ := exists_of_isCode h
      have hhigh : ¬ (0xD800 ≤ n ∧ n < 0xDC00) := by omega
      have hlow : ¬ (0xDC00 ≤ n ∧ n < 0xE000) := by omega
      cases hrest : stringBody? rest <;> simp [stringBody?, hhex, hhigh, hlow, hrest]
  | surrogates hm hn hhigh hlow =>
      obtain ⟨_, _, _, _, rfl, hhexm⟩ := exists_of_isCode hm
      obtain ⟨_, _, _, _, rfl, hhexn⟩ := exists_of_isCode hn
      cases hrest : stringBody? rest <;>
        simp [stringBody?, hhexm, hhexn, hhigh, hlow, pairChar, hrest]

theorem stringBody?_of_isChars {s cs : List Char} (h : IsChars s cs) (rest : List Char) :
    stringBody? (cs ++ '"' :: rest) = some (s, rest) := by
  induction h with
  | nil => rw [List.nil_append, stringBody?]
  | cons hc hs ih => rw [List.append_assoc, stringBody?_append hc, ih, Option.map_some]

theorem stringBody?_of_isString {s : String} {cs : List Char} (h : IsString s cs) :
    ∃ ds, cs = '"' :: ds ∧ ∀ rest, stringBody? (ds ++ rest) = some (s.toList, rest) := by
  cases h with
  | quoted h =>
      refine ⟨_, rfl, fun rest => ?_⟩
      rw [List.append_assoc, List.singleton_append, stringBody?_of_isChars h]

/-! ### Numbers -/

theorem IsDigits.exists_cons {ds : List Char} (h : IsDigits ds) :
    ∃ c cs, ds = c :: cs ∧ c.isDigit = true := by
  obtain ⟨hne, hdigits⟩ := h
  cases ds with
  | nil => exact absurd rfl hne
  | cons c cs => exact ⟨c, cs, rfl, hdigits c List.mem_cons_self⟩

theorem IsDigits.isEmpty {ds : List Char} (h : IsDigits ds) : ds.isEmpty = false :=
  List.isEmpty_eq_false_iff.2 h.1

theorem places?_append {places : Option (List Char)} {fs rest : List Char}
    (h : IsFraction places fs) (hrest : ∀ c ∈ rest.head?, c.isDigit = false ∧ c ≠ '.') :
    places? (fs ++ rest) = some (places, rest) := by
  cases h with
  | none =>
      rw [List.nil_append, places?]
      rintro cs rfl
      exact (hrest '.' rfl).2 rfl
  | some h =>
      rw [List.cons_append, places?, splitDigits_append h.2 fun c hc => (hrest c hc).1]
      simp [h.1]

theorem splitSign_append {negative : Bool} {sign ds : List Char} (hsign : IsSign negative sign)
    (hds : IsDigits ds) (rest : List Char) :
    splitSign (sign ++ (ds ++ rest)) = (negative, ds ++ rest) := by
  cases hsign with
  | none =>
      obtain ⟨c, cs, rfl, hc⟩ := hds.exists_cons
      rw [List.nil_append, List.cons_append, splitSign]
      · rintro _ ⟨⟩
        exact ne_of_isDigit hc rfl rfl
      · rintro _ ⟨⟩
        exact ne_of_isDigit hc rfl rfl
  | plus | minus => rfl

theorem exponent?_append {exponent : Option Int} {es rest : List Char}
    (h : IsExponent exponent es) (hrest : Closes rest) :
    exponent? (es ++ rest) = some (exponent, rest) := by
  cases h with
  | none =>
      cases rest with
      | nil => rfl
      | cons c rest =>
          obtain ⟨-, -, he, hE⟩ := hrest c rfl
          simp [exponent?, he, hE]
  | some he hsign h =>
      have hmark : ∀ e, e = 'e' ∨ e = 'E' → (e == 'e' || e == 'E') = true := by
        rintro e (rfl | rfl) <;> rfl
      rw [List.cons_append, List.append_assoc, exponent?, if_pos (hmark _ he),
        splitSign_append hsign h]
      simp [splitDigits_append h.2 fun c hc => (hrest c hc).1, h.1]

theorem head?_append_of_isExponent {exponent : Option Int} {es rest : List Char}
    (h : IsExponent exponent es) (hrest : Closes rest) :
    ∀ c ∈ (es ++ rest).head?, c.isDigit = false ∧ c ≠ '.' := by
  cases h with
  | none => exact fun c hc => ⟨(hrest c hc).1, (hrest c hc).2.1⟩
  | some he hsign h =>
      rintro c ⟨⟩
      rcases he with rfl | rfl <;> decide

theorem unsigned?_append {negative : Bool} {whole fs es rest : List Char}
    {places : Option (List Char)} {exponent : Option Int} (hwhole : IsDigits whole)
    (hzero : whole.head? = some '0' → whole = ['0']) (hplaces : IsFraction places fs)
    (hexponent : IsExponent exponent es) (hrest : Closes rest) :
    unsigned? negative (whole ++ (fs ++ (es ++ rest))) =
      some (⟨negative, whole, places, exponent⟩, rest) := by
  have hnext := head?_append_of_isExponent hexponent hrest
  have hpoint : ∀ c ∈ (fs ++ (es ++ rest)).head?, c.isDigit = false := by
    cases hplaces with
    | none => exact fun c hc => (hnext c hc).1
    | some h =>
        rintro c ⟨⟩
        decide
  have hleading : (whole.isEmpty || (whole.head? == some '0' && decide (1 < whole.length))) =
      false := by
    rw [hwhole.isEmpty, Bool.false_or, Bool.and_eq_false_imp]
    intro hhead
    rw [hzero (beq_iff_eq.1 hhead)]
    rfl
  rw [unsigned?, splitDigits_append hwhole.2 hpoint]
  simp [hleading, places?_append hplaces hnext, exponent?_append hexponent hrest]

theorem number?_append {t : Numeral} {v : Value} {cs rest : List Char} (h : IsNumber t cs)
    (hv : t.value? = some v) (hrest : Closes rest) : number? (cs ++ rest) = some (v, rest) := by
  cases h with
  | @parts negative _ _ _ _ _ hwhole hzero hplaces hexponent =>
      have hread := @unsigned?_append negative _ _ _ _ _ _ hwhole hzero hplaces hexponent hrest
      cases negative with
      | true => simp [number?, hread, hv]
      | false =>
          obtain ⟨c, ds, rfl, hc⟩ := hwhole.exists_cons
          rw [if_neg Bool.false_ne_true, List.nil_append, List.append_assoc, List.append_assoc,
            List.cons_append, number?]
          · rw [← List.cons_append, hread]
            simp [hv]
          · rintro _ ⟨⟩
            exact ne_of_isDigit hc rfl rfl

/-! ### Values -/

theorem exists_cons_of_isNumber {t : Numeral} {cs : List Char} (h : IsNumber t cs) :
    ∃ c ds, cs = c :: ds ∧ (c = '-' ∨ c.isDigit = true) := by
  cases h with
  | @parts negative _ _ _ _ _ hwhole =>
      obtain ⟨c, ds, rfl, hc⟩ := hwhole.exists_cons
      cases negative with
      | true => exact ⟨_, _, rfl, .inl rfl⟩
      | false => exact ⟨_, _, rfl, .inr hc⟩

theorem isBlank_of_isDigit {c : Char} (hc : c.isDigit = true) : isBlank c = false := by
  simp [isBlank, ne_of_isDigit hc]

theorem exists_cons_of_isValue {depth : Nat} {v : Value} {cs : List Char}
    (h : IsValue depth v cs) :
    ∃ c ds, cs = c :: ds ∧ isBlank c = false ∧ c ≠ ']' ∧ c ≠ '\x7d' := by
  cases h with
  | number h =>
      obtain ⟨c, ds, rfl, hc⟩ := exists_cons_of_isNumber h
      refine ⟨c, ds, rfl, ?_⟩
      rcases hc with rfl | hc
      · decide
      · exact ⟨isBlank_of_isDigit hc, ne_of_isDigit hc rfl, ne_of_isDigit hc rfl⟩
  | string h =>
      obtain ⟨ds, rfl, -⟩ := stringBody?_of_isString h
      exact ⟨_, _, rfl, by decide⟩
  | _ => exact ⟨_, _, rfl, by decide⟩

theorem value?_blanks {ws : List Char} (h : IsBlanks ws) (fuel depth : Nat) (cs : List Char) :
    value? fuel depth (ws ++ cs) = value? fuel depth cs := by
  cases fuel with
  | zero => rw [value?, value?]
  | succ fuel => rw [value?, value?, skipBlanks_append h]

theorem value?_number {c : Char} (hc : c = '-' ∨ c.isDigit = true) (fuel depth : Nat)
    (cs : List Char) : value? (fuel + 1) depth (c :: cs) = number? (c :: cs) := by
  have hblank : isBlank c = false := by
    rcases hc with rfl | hc
    · rfl
    · exact isBlank_of_isDigit hc
  have hne : ∀ d : Char, d ≠ '-' → d.isDigit = false → c ≠ d := by
    rintro d hminus hd rfl
    rcases hc with hc | hc
    · exact hminus hc
    · exact ne_of_isDigit hc hd rfl
  rw [value?, skipBlanks_cons hblank]
  split
  · next heq => exact absurd (List.cons.inj heq).1 (hne _ (by decide) rfl)
  · next heq => exact absurd (List.cons.inj heq).1 (hne _ (by decide) rfl)
  · next heq => exact absurd (List.cons.inj heq).1 (hne _ (by decide) rfl)
  · next heq => exact absurd (List.cons.inj heq).1 (hne _ (by decide) rfl)
  · next heq => exact absurd (List.cons.inj heq).1 (hne _ (by decide) rfl)
  · next heq => exact absurd (List.cons.inj heq).1 (hne _ (by decide) rfl)
  · rfl

/-- Behind a bracket that is not closed at once, the reader turns to the items. -/
theorem value?_bracket {fuel depth : Nat} {cs : List Char} {c : Char} {ds : List Char}
    (hskip : skipBlanks cs = c :: ds) (hc : c ≠ ']') :
    value? (fuel + 1) (depth + 1) ('[' :: cs) =
      (items? fuel depth (c :: ds)).map fun (vs, rest) => (.array vs, rest) := by
  rw [value?, skipBlanks_cons (by decide)]
  simp only [hskip]
  split
  · next heq => exact absurd (List.cons.inj heq).1 hc
  · rfl

theorem value?_brace {fuel depth : Nat} {cs : List Char} {c : Char} {ds : List Char}
    (hskip : skipBlanks cs = c :: ds) (hc : c ≠ '\x7d') :
    value? (fuel + 1) (depth + 1) ('\x7b' :: cs) =
      (fields? fuel depth (c :: ds)).map fun (fs, rest) => (.object (lastFields fs), rest) := by
  rw [value?, skipBlanks_cons (by decide)]
  simp only [hskip]
  split
  · next heq => exact absurd (List.cons.inj heq).1 hc
  · rfl

theorem lastFields_of_nodup {fields : List (String × Value)}
    (h : (fields.map Prod.fst).Nodup) : lastFields fields = fields := by
  induction fields with
  | nil => rfl
  | cons entry rest ih =>
      rw [List.map_cons, List.nodup_cons] at h
      have hother : (rest.any fun other => other.1 == entry.1) = false := by
        rw [List.any_eq_false]
        intro other hmem heq
        exact h.1 (List.mem_map.2 ⟨other, hmem, beq_iff_eq.1 heq⟩)
      rw [lastFields, hother, ih h.2]
      rfl

theorem fields?_append {fuel depth : Nat} {name : String} {v : Value}
    {ns ws ws' cs rest : List Char} (hname : IsString name ns) (hws : IsBlanks ws)
    (hws' : IsBlanks ws') (hread : value? fuel depth (cs ++ rest) = some (v, rest)) :
    (∀ tail, skipBlanks rest = '\x7d' :: tail →
      fields? (fuel + 1) depth (ns ++ (ws ++ ':' :: (ws' ++ cs)) ++ rest) =
        some ([(name, v)], tail)) ∧
    ∀ tail, skipBlanks rest = ',' :: tail →
      fields? (fuel + 1) depth (ns ++ (ws ++ ':' :: (ws' ++ cs)) ++ rest) =
        (fields? fuel depth tail).map fun (fs, tail) => ((name, v) :: fs, tail) := by
  obtain ⟨ds, rfl, hstring⟩ := stringBody?_of_isString hname
  have hcolon : skipBlanks (ws ++ ':' :: (ws' ++ cs) ++ rest) = ':' :: (ws' ++ (cs ++ rest)) := by
    rw [List.append_assoc, skipBlanks_append hws, List.cons_append, skipBlanks_cons (by decide),
      List.append_assoc]
  rw [fields?, List.append_assoc, List.cons_append, skipBlanks_cons (by decide)]
  refine ⟨fun tail htail => ?_, fun tail htail => ?_⟩
  · simp only [hstring, hcolon, value?_blanks hws', hread, htail, String.ofList_toList]
  · simp only [hstring, hcolon, value?_blanks hws', hread, htail, String.ofList_toList]

theorem exists_of_isItems {depth : Nat} {vs : List Value} {cs : List Char}
    (h : IsItems depth vs cs) :
    ∃ ws c ds, cs = ws ++ c :: ds ∧ IsBlanks ws ∧ isBlank c = false ∧ c ≠ ']' := by
  cases h with
  | last hws hv _ | more hws hv _ _ =>
      obtain ⟨c, ds, rfl, hblank, hc, -⟩ := exists_cons_of_isValue hv
      exact ⟨_, c, _, rfl, hws, hblank, hc⟩

theorem exists_of_isFields {depth : Nat} {fields : List (String × Value)} {cs : List Char}
    (h : IsFields depth fields cs) : ∃ ws ds, cs = ws ++ '"' :: ds ∧ IsBlanks ws := by
  cases h with
  | last hws hfield _ | more hws hfield _ _ =>
      cases hfield with
      | named hname =>
          obtain ⟨ds, rfl, -⟩ := stringBody?_of_isString hname
          exact ⟨_, _, rfl, hws⟩

theorem items?_blanks {ws : List Char} (h : IsBlanks ws) (fuel depth : Nat) (cs : List Char) :
    items? fuel depth (ws ++ cs) = items? fuel depth cs := by
  cases fuel with
  | zero => rw [items?, items?]
  | succ fuel => rw [items?, items?, value?_blanks h]

theorem fields?_blanks {ws : List Char} (h : IsBlanks ws) (fuel depth : Nat) (cs : List Char) :
    fields? fuel depth (ws ++ cs) = fields? fuel depth cs := by
  cases fuel with
  | zero => rw [fields?, fields?]
  | succ fuel => rw [fields?, fields?, skipBlanks_append h]

mutual

/-- The reader takes a text of the grammar for what it stands for, and goes no further, if it
may go as deep and has two units of fuel for each character. -/
theorem value?_of_isValue {depth deeper fuel : Nat} {v : Value} {cs rest : List Char}
    (h : IsValue depth v cs) (hdepth : depth ≤ deeper) (hfuel : 2 * cs.length ≤ fuel)
    (hrest : Closes rest) : value? fuel deeper (cs ++ rest) = some (v, rest) := by
  match fuel with
  | 0 =>
      obtain ⟨c, ds, rfl, -⟩ := exists_cons_of_isValue h
      simp at hfuel
  | fuel + 1 =>
      cases h with
      | null | true | false =>
          rw [List.cons_append, value?, skipBlanks_cons (by decide)]
          rfl
      | number h hv =>
          obtain ⟨c, ds, rfl, hc⟩ := exists_cons_of_isNumber h
          rw [List.cons_append, value?_number hc, ← List.cons_append, number?_append h hv hrest]
      | string h =>
          obtain ⟨ds, rfl, hstring⟩ := stringBody?_of_isString h
          rw [List.cons_append, value?, skipBlanks_cons (by decide)]
          simp only [hstring, Option.map_some, String.ofList_toList]
      | emptyArray hws =>
          obtain ⟨deeper, rfl⟩ := Nat.exists_eq_add_of_lt (Nat.lt_of_succ_le hdepth)
          rw [List.cons_append, value?, skipBlanks_cons (by decide), List.append_assoc]
          simp only [skipBlanks_append hws]
          rfl
      | emptyObject hws =>
          obtain ⟨deeper, rfl⟩ := Nat.exists_eq_add_of_lt (Nat.lt_of_succ_le hdepth)
          rw [List.cons_append, value?, skipBlanks_cons (by decide), List.append_assoc]
          simp only [skipBlanks_append hws]
          rfl
      | @array _ _ cs h =>
          obtain ⟨deeper, rfl⟩ : ∃ d, deeper = d + 1 := ⟨deeper - 1, by omega⟩
          have hlength : 2 * cs.length ≤ fuel := by
            rw [List.length_cons] at hfuel
            omega
          have hread := items?_of_isItems h (Nat.le_of_succ_le_succ hdepth) hlength rest
          obtain ⟨ws, c, ds, rfl, hws, hblank, hc⟩ := exists_of_isItems h
          have hskip : skipBlanks (ws ++ c :: ds ++ rest) = c :: (ds ++ rest) := by
            rw [List.append_assoc, skipBlanks_append hws, List.cons_append, skipBlanks_cons hblank]
          rw [List.append_assoc, items?_blanks hws, List.cons_append] at hread
          rw [List.cons_append, value?_bracket hskip hc, hread, Option.map_some]
      | @object _ _ cs h hnames =>
          obtain ⟨deeper, rfl⟩ : ∃ d, deeper = d + 1 := ⟨deeper - 1, by omega⟩
          have hlength : 2 * cs.length ≤ fuel := by
            rw [List.length_cons] at hfuel
            omega
          have hread := fields?_of_isFields h (Nat.le_of_succ_le_succ hdepth) hlength rest
          obtain ⟨ws, ds, rfl, hws⟩ := exists_of_isFields h
          have hskip : skipBlanks (ws ++ '"' :: ds ++ rest) = '"' :: (ds ++ rest) := by
            rw [List.append_assoc, skipBlanks_append hws, List.cons_append,
              skipBlanks_cons (by decide)]
          rw [List.append_assoc, fields?_blanks hws, List.cons_append] at hread
          rw [List.cons_append, value?_brace hskip (by decide), hread, Option.map_some]
          simp only [lastFields_of_nodup hnames]
termination_by structural fuel

theorem items?_of_isItems {depth deeper fuel : Nat} {vs : List Value} {cs : List Char}
    (h : IsItems depth vs cs) (hdepth : depth ≤ deeper) (hfuel : 2 * cs.length ≤ fuel)
    (rest : List Char) : items? fuel deeper (cs ++ rest) = some (vs, rest) := by
  match fuel with
  | 0 =>
      obtain ⟨ws, c, ds, rfl, -⟩ := exists_of_isItems h
      simp at hfuel
  | fuel + 1 =>
      cases h with
      | @last _ _ _ cs ws' hws hv hws' =>
          have hlength : 2 * cs.length ≤ fuel := by
            simp only [List.length_append, List.length_cons] at hfuel
            omega
          have hread := value?_of_isValue hv hdepth hlength
            (closes_append hws' (closes_cons (c := ']') (by decide) rest))
          have htail : ws' ++ [']'] ++ rest = ws' ++ ']' :: rest := List.append_assoc _ _ _
          rw [List.append_assoc, items?_blanks hws, List.append_assoc, htail, items?, hread]
          simp only [skipBlanks_append hws', skipBlanks_cons (c := ']') (by decide)]
      | @more _ _ _ _ cs ws' ds hws hv hws' hvs =>
          simp only [List.length_append, List.length_cons] at hfuel
          have hlength : 2 * cs.length ≤ fuel := by omega
          have hlength' : 2 * ds.length ≤ fuel := by omega
          have hread := value?_of_isValue hv hdepth hlength
            (closes_append hws' (closes_cons (c := ',') (by decide) (ds ++ rest)))
          have htail : ws' ++ ',' :: ds ++ rest = ws' ++ ',' :: (ds ++ rest) :=
            List.append_assoc _ _ _
          rw [List.append_assoc, items?_blanks hws, List.append_assoc, htail, items?, hread]
          simp only [skipBlanks_append hws', skipBlanks_cons (c := ',') (by decide),
            items?_of_isItems hvs hdepth hlength' rest, Option.map_some]
termination_by structural fuel

theorem fields?_of_isFields {depth deeper fuel : Nat} {fields : List (String × Value)}
    {cs : List Char} (h : IsFields depth fields cs) (hdepth : depth ≤ deeper)
    (hfuel : 2 * cs.length ≤ fuel) (rest : List Char) :
    fields? fuel deeper (cs ++ rest) = some (fields, rest) := by
  match fuel with
  | 0 =>
      obtain ⟨ws, ds, rfl, -⟩ := exists_of_isFields h
      simp at hfuel
  | fuel + 1 =>
      cases h with
      | @last _ _ _ _ ws' hws hfield hws' =>
          cases hfield with
          | @named _ _ _ _ _ _ cs hname hnws hnws' hv =>
              have hlength : 2 * cs.length ≤ fuel := by
                simp only [List.length_append, List.length_cons] at hfuel
                omega
              have hread := value?_of_isValue hv hdepth hlength
                (closes_append hws' (closes_cons (c := '\x7d') (by decide) rest))
              have htail : ws' ++ ['\x7d'] ++ rest = ws' ++ '\x7d' :: rest :=
                List.append_assoc _ _ _
              rw [List.append_assoc, fields?_blanks hws, List.append_assoc, htail]
              apply (fields?_append hname hnws hnws' hread).1
              rw [skipBlanks_append hws', skipBlanks_cons (by decide)]
      | @more _ _ _ _ _ ws' ds hws hfield hws' hfields =>
          cases hfield with
          | @named _ _ _ _ _ _ cs hname hnws hnws' hv =>
              simp only [List.length_append, List.length_cons] at hfuel
              have hlength : 2 * cs.length ≤ fuel := by omega
              have hlength' : 2 * ds.length ≤ fuel := by omega
              have hread := value?_of_isValue hv hdepth hlength
                (closes_append hws' (closes_cons (c := ',') (by decide) (ds ++ rest)))
              have htail : ws' ++ ',' :: ds ++ rest = ws' ++ ',' :: (ds ++ rest) :=
                List.append_assoc _ _ _
              have hskip : skipBlanks (ws' ++ ',' :: (ds ++ rest)) = ',' :: (ds ++ rest) := by
                rw [skipBlanks_append hws', skipBlanks_cons (by decide)]
              rw [List.append_assoc, fields?_blanks hws, List.append_assoc, htail,
                (fields?_append hname hnws hnws' hread).2 _ hskip,
                fields?_of_isFields hfields hdepth hlength' rest, Option.map_some]
termination_by structural fuel

end

/-! ### Texts -/

theorem read?_of_isText {depth deeper : Nat} {v : Value} {text : String}
    (h : IsText depth v text) (hdepth : depth ≤ deeper) : read? deeper text = some v := by
  obtain ⟨ws, cs, ws', hws, hv, hws', heq⟩ := h
  have hblanks : skipBlanks ws' = [] := by
    rw [← List.append_nil ws', skipBlanks_append hws']
    rfl
  have hcloses : Closes (ws' ++ []) := closes_append hws' closes_nil
  have hfuel : 2 * cs.length ≤ 2 * (ws ++ (cs ++ ws')).length + 2 := by
    simp only [List.length_append]
    omega
  rw [List.append_nil] at hcloses
  have hread := value?_of_isValue hv hdepth hfuel hcloses
  rw [read?, heq]
  simp only [value?_blanks hws, hread, hblanks]
  rfl

/-- No text stands for two values. -/
theorem eq_of_isText {depth depth' : Nat} {v w : Value} {text : String}
    (hv : IsText depth v text) (hw : IsText depth' w text) : v = w := by
  have hread := read?_of_isText hv (Nat.le_max_left depth depth')
  rw [read?_of_isText hw (Nat.le_max_right depth depth')] at hread
  exact (Option.some.inj hread).symm

end RecordFilter.Json
