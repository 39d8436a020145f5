import RecordFilter.Json.Printer
import RecordFilter.Proofs.Json.Grammar
import RecordFilter.Proofs.Value.Equality

/-!
# Printed values are read back

What is printed is a text of the grammar and stands for what was printed (`isValue_write`),
as long as the value has no float and every object has each name once. The sorted form of a
value without floats is such a value (`readable_normalize`), so the text of a value is read
as its sorted form, and two values have the same text exactly if they are equal up to the
order of fields (`render_roundTrip`).
-/

namespace RecordFilter

namespace Value

mutual

def nesting : Value → Nat
  | null => 0
  | boolean _ => 0
  | integer _ => 0
  | float _ => 0
  | string _ => 0
  | array items => nestingItems items + 1
  | object fields => nestingFields fields + 1

def nestingItems : List Value → Nat
  | [] => 0
  | v :: vs => max (nesting v) (nestingItems vs)

def nestingFields : List (String × Value) → Nat
  | [] => 0
  | (_, v) :: rest => max (nesting v) (nestingFields rest)

end

theorem nestingItems_le_iff {items : List Value} {depth : Nat} :
    nestingItems items ≤ depth ↔ ∀ v ∈ items, v.nesting ≤ depth := by
  induction items with
  | nil => simp [nestingItems]
  | cons v vs ih => rw [nestingItems, Nat.max_le, ih, List.forall_mem_cons]

theorem nestingFields_le_iff {fields : List (String × Value)} {depth : Nat} :
    nestingFields fields ≤ depth ↔ ∀ entry ∈ fields, entry.2.nesting ≤ depth := by
  induction fields with
  | nil => simp [nestingFields]
  | cons entry rest ih => rw [nestingFields, Nat.max_le, ih, List.forall_mem_cons]

/-- The values that texts stand for: no floats, each name once in an object, and arrays and
objects nested at most `depth` deep. -/
inductive Readable : Nat → Value → Prop
  | null {depth : Nat} : Readable depth .null
  | boolean {depth : Nat} (b : Bool) : Readable depth (.boolean b)
  | integer {depth : Nat} (n : Int64) : Readable depth (.integer n)
  | string {depth : Nat} (s : String) : Readable depth (.string s)
  | array {depth : Nat} {items : List Value} (h : ∀ v ∈ items, Readable depth v) :
      Readable (depth + 1) (.array items)
  | object {depth : Nat} {fields : List (String × Value)}
      (hnames : (fields.map Prod.fst).Nodup) (h : ∀ entry ∈ fields, Readable depth entry.2) :
      Readable (depth + 1) (.object fields)

theorem nodup_of_ascending {fields : List (String × Value)} (h : Ascending fields) :
    (fields.map Prod.fst).Nodup := by
  rw [List.Nodup, List.pairwise_map]
  refine h.imp fun {a b} hlt heq => ?_
  rw [heq] at hlt
  exact absurd (hlt.symm.trans Std.ReflOrd.compare_self) (by decide)

theorem readable_normalize {v : Value} (hv : v.isFloatFree = true) {depth : Nat}
    (hdepth : v.nesting ≤ depth) : Readable depth v.normalize := by
  induction v using inductionOn generalizing depth with
  | scalar v hscalar =>
      cases v with
      | null => exact .null
      | boolean b => exact .boolean b
      | integer n => exact .integer n
      | float x => cases hv
      | string s => exact .string s
      | array items => cases hscalar
      | object fields => cases hscalar
  | array items ih =>
      rw [isFloatFree, isFloatFreeItems_iff] at hv
      rw [nesting] at hdepth
      obtain ⟨depth, rfl⟩ : ∃ d, depth = d + 1 := ⟨depth - 1, by omega⟩
      have hitems := nestingItems_le_iff.1 (Nat.le_of_succ_le_succ hdepth)
      rw [normalize, normalizeItems_eq_map]
      refine .array (List.forall_mem_map.2 fun v hmem => ?_)
      exact ih v hmem (hv v hmem) (hitems v hmem)
  | object fields ih =>
      rw [isFloatFree, isFloatFreeFields_iff] at hv
      rw [nesting] at hdepth
      obtain ⟨depth, rfl⟩ : ∃ d, depth = d + 1 := ⟨depth - 1, by omega⟩
      have hfields := nestingFields_le_iff.1 (Nat.le_of_succ_le_succ hdepth)
      refine .object (nodup_of_ascending (ascending_sortFields _)) fun entry hentry => ?_
      obtain ⟨field, hfield, heq⟩ := exists_of_mem_normalize hentry
      rw [heq]
      exact ih field hfield (hv field hfield) (hfields field hfield)

end Value

namespace Json

/-! ### Strings and numbers -/

theorem isHexDigit_hexDigit (n : Nat) : IsHexDigit (n % 16) (hexDigit n) :=
  ⟨Nat.mod_lt n (by decide), .inl rfl⟩

theorem isChar_escapeChar (c : Char) : IsChar c (escapeChar c) := by
  rw [escapeChar]
  split
  · next heq =>
      rw [heq]
      exact .short (by decide)
  split
  · next heq =>
      rw [heq]
      exact .short (by decide)
  split
  · next heq =>
      rw [heq]
      exact .short (by decide)
  split
  · next heq =>
      rw [heq]
      exact .short (by decide)
  split
  · next heq =>
      rw [heq]
      exact .short (by decide)
  · next hquote hbackslash _ _ _ =>
      split
      · next hcontrol =>
          have hsmall : c.toNat < 256 := by
            simp only [isControl, Bool.or_eq_true, Bool.and_eq_true, decide_eq_true_eq] at hcontrol
            omega
          have hcode : IsCode c.toNat ['0', '0', hexDigit (c.toNat / 16), hexDigit c.toNat] := by
            have hzero : IsHexDigit 0 '0' := ⟨by decide, .inl rfl⟩
            have hdigits := IsCode.digits hzero hzero (isHexDigit_hexDigit (c.toNat / 16))
              (isHexDigit_hexDigit c.toNat)
            have hsum : ((0 * 16 + 0) * 16 + c.toNat / 16 % 16) * 16 + c.toNat % 16 = c.toNat := by
              omega
            rwa [hsum] at hdigits
          have hchar := IsChar.code hcode (.inl (by omega))
          rwa [Char.ofNat_toNat] at hchar
      · next hcontrol =>
          have hprintable : 0x20 ≤ c.toNat := by
            simp only [isControl, Bool.or_eq_true, Bool.and_eq_true, decide_eq_true_eq] at hcontrol
            omega
          exact .plain hprintable hquote hbackslash

theorem isString_writeString (s : String) : IsString s (writeString s) := by
  have hchars : ∀ cs, IsChars cs (escape cs) := by
    intro cs
    induction cs with
    | nil => exact .nil
    | cons c cs ih => exact .cons (isChar_escapeChar c) ih
  exact .quoted (hchars s.toList)

/-- No zero stands in front of the digits of a number, zero apart. -/
theorem head?_toDigits {n : Nat} (h : (Nat.toDigits 10 n).head? = some '0') :
    Nat.toDigits 10 n = ['0'] := by
  have hzero : ∀ n, (Nat.toDigits 10 n).head? = some '0' → n = 0 := by
    intro n
    induction n using Nat.strongRecOn with
    | ind n ih =>
        intro h
        rw [Nat.toDigits_eq_if (by decide)] at h
        split at h
        · next hlt =>
            have hdigits : ∀ n < 10, Nat.digitChar n = '0' → n = 0 := by decide
            exact hdigits n hlt (Option.some.inj h)
        · next hge =>
            rw [List.head?_append_of_ne_nil _ Nat.toDigits_ne_nil] at h
            have hrest := ih (n / 10) (by omega) h
            omega
  rw [hzero n h]
  rfl

theorem isDigits_toDigits (n : Nat) : IsDigits (Nat.toDigits 10 n) :=
  ⟨Nat.toDigits_ne_nil, fun _ => isDigit_of_mem_toDigits⟩

theorem isNumber_writeInt (n : Int) :
    IsNumber ⟨decide (n < 0), Nat.toDigits 10 n.natAbs, none, none⟩ (writeInt n) := by
  have hnumber : IsNumber ⟨decide (n < 0), Nat.toDigits 10 n.natAbs, none, none⟩
      ((if decide (n < 0) then ['-'] else []) ++ (Nat.toDigits 10 n.natAbs ++ ([] ++ []))) :=
    .parts (isDigits_toDigits n.natAbs) head?_toDigits .none .none
  rw [List.append_nil, List.append_nil] at hnumber
  rw [writeInt]
  split
  · next hneg => simpa [hneg] using hnumber
  · next hneg => simpa [hneg] using hnumber

theorem value?_integer (n : Int64) :
    Numeral.value? ⟨decide (n.toInt < 0), Nat.toDigits 10 n.toInt.natAbs, none, none⟩ =
      some (.integer n) := by
  have hlow := n.le_toInt
  have hhigh := n.toInt_lt
  have hinteger : Numeral.integer? ⟨decide (n.toInt < 0), Nat.toDigits 10 n.toInt.natAbs, none,
      none⟩ = some n := by
    have hdigits : Nat.ofDigitChars 10 (Nat.toDigits 10 n.toInt.natAbs) 0 = n.toInt.natAbs :=
      Nat.ofDigitChars_toDigits (by decide) (by decide)
    simp only [Numeral.integer?, hdigits, Option.isSome_none, Bool.or_self, Bool.false_eq_true,
      if_false, decide_eq_true_eq, Bool.and_eq_true]
    have hpow : Nat.pow 2 63 = 9223372036854775808 := rfl
    rw [hpow]
    split
    · next hneg =>
        have habs : -(n.toInt.natAbs : Int) = n.toInt := by omega
        rw [if_pos (by omega), habs, Int64.ofInt_toInt]
    · next hneg =>
        have habs : (n.toInt.natAbs : Int) = n.toInt := by omega
        rw [if_pos (by omega), habs, Int64.ofInt_toInt]
  rw [Numeral.value?, hinteger]

/-! ### Values -/

theorem isBlanks_lineBreak (layout : Layout) (level : Nat) : IsBlanks (layout.lineBreak level) := by
  cases layout with
  | compact => exact List.forall_mem_nil _
  | indented =>
      exact List.forall_mem_cons.2 ⟨.inr (.inr (.inl rfl)), fun c hc =>
        .inl (List.mem_replicate.1 hc).2⟩

theorem isBlanks_nil : IsBlanks [] := List.forall_mem_nil _

theorem isItems_write {layout : Layout} {depth level : Nat} {v : Value} {vs : List Value}
    (h : ∀ w ∈ v :: vs, ∀ level, IsValue depth w (write layout level w)) :
    IsItems depth (v :: vs) (layout.lineBreak (level + 1) ++ write layout (level + 1) v ++
      writeItems layout level vs) := by
  induction vs generalizing v with
  | nil =>
      rw [writeItems, List.append_assoc]
      exact .last (isBlanks_lineBreak _ _) (h v List.mem_cons_self _) (isBlanks_lineBreak _ _)
  | cons w vs ih =>
      rw [List.forall_mem_cons] at h
      rw [writeItems, List.append_assoc]
      exact .more (isBlanks_lineBreak _ _) (h.1 _) isBlanks_nil (ih h.2)

theorem isField_write {layout : Layout} {depth level : Nat} {name : String} {v : Value}
    (h : IsValue depth v (write layout level v)) :
    IsField depth (name, v) (writeString name ++ (layout.colon ++ write layout level v)) := by
  cases layout with
  | compact => exact .named (isString_writeString name) isBlanks_nil isBlanks_nil h
  | indented =>
      have hblank : IsBlanks [' '] := List.forall_mem_singleton.2 (.inl rfl)
      exact .named (isString_writeString name) isBlanks_nil hblank h

theorem isFields_write {layout : Layout} {depth level : Nat} {field : String × Value}
    {fields : List (String × Value)}
    (h : ∀ entry ∈ field :: fields, ∀ level, IsValue depth entry.2 (write layout level entry.2)) :
    IsFields depth (field :: fields) (layout.lineBreak (level + 1) ++ writeString field.1 ++
      layout.colon ++ write layout (level + 1) field.2 ++ writeFields layout level fields) := by
  induction fields generalizing field with
  | nil =>
      rw [writeFields]
      simp only [List.append_assoc]
      have hfield : IsField depth field _ := isField_write (h field List.mem_cons_self (level + 1))
      have hlast := IsFields.last (isBlanks_lineBreak layout (level + 1)) hfield
        (isBlanks_lineBreak layout level)
      simpa only [List.append_assoc] using hlast
  | cons other fields ih =>
      rw [List.forall_mem_cons] at h
      have hfield : IsField depth field _ := isField_write (h.1 (level + 1))
      have hmore := IsFields.more (isBlanks_lineBreak layout (level + 1)) hfield isBlanks_nil
        (ih h.2)
      rw [writeFields]
      simpa only [List.append_assoc, List.nil_append] using hmore

/-- What is written for a value stands for it. -/
theorem isValue_write {depth : Nat} {v : Value} (h : v.Readable depth) (layout : Layout)
    (level : Nat) : IsValue depth v (write layout level v) := by
  induction h generalizing level with
  | null =>
      rw [write]
      exact .null
  | boolean b =>
      rw [write]
      cases b with
      | false => exact .false
      | true => exact .true
  | integer n =>
      rw [write]
      exact .number (isNumber_writeInt n.toInt) (value?_integer n)
  | string s =>
      rw [write]
      exact .string (isString_writeString s)
  | @array _ items _ ih =>
      cases items with
      | nil =>
          rw [write]
          exact .emptyArray isBlanks_nil
      | cons v vs =>
          rw [write]
          exact .array (isItems_write ih)
  | @object _ fields hnames _ ih =>
      cases fields with
      | nil =>
          rw [write]
          exact .emptyObject isBlanks_nil
      | cons field rest =>
          rw [write]
          exact .object (isFields_write ih) hnames

/-! ### Documents -/

variable {v w : Value} (layout : Layout)

theorem isText_render (hv : v.isFloatFree = true) :
    IsText v.nesting v.normalize (render layout v) := by
  have hvalue := isValue_write (Value.readable_normalize hv le_rfl) layout 0
  refine ⟨[], _, [], isBlanks_nil, hvalue, isBlanks_nil, ?_⟩
  rw [render, String.toList_ofList, List.nil_append, List.append_nil]

theorem render_eq_iff (hv : v.isFloatFree = true) (hw : w.isFloatFree = true) :
    render layout v = render layout w ↔ v.Equal w := by
  rw [Value.equal_iff_normalize]
  refine ⟨fun h => ?_, fun h => by rw [render, render, h]⟩
  have htext := isText_render layout hv
  rw [h] at htext
  exact eq_of_isText htext (isText_render layout hw)

/-- A text that goes on behind a value with what does not belong to a number has one value in
front. -/
theorem toJson_append_inj (hv : v.isFloatFree = true) (hw : w.isFloatFree = true)
    {s t : List Char} (hs : Closes s) (ht : Closes t)
    (h : v.toJson.toList ++ s = w.toJson.toList ++ t) : v.normalize = w.normalize ∧ s = t := by
  have hread : ∀ {v : Value}, v.isFloatFree = true → ∀ {s : List Char}, Closes s →
      ∀ depth fuel, v.nesting ≤ depth → 2 * v.toJson.toList.length ≤ fuel →
        value? fuel depth (v.toJson.toList ++ s) = some (v.normalize, s) := by
    intro v hv s hs depth fuel hdepth hfuel
    have hvalue := isValue_write (Value.readable_normalize hv le_rfl) .compact 0
    rw [Value.toJson, render, String.toList_ofList] at hfuel ⊢
    exact value?_of_isValue hvalue hdepth hfuel hs
  have hleft := hread hv hs (max v.nesting w.nesting)
    (2 * v.toJson.toList.length + 2 * w.toJson.toList.length) (Nat.le_max_left _ _)
    (Nat.le_add_right _ _)
  have hright := hread hw ht (max v.nesting w.nesting)
    (2 * v.toJson.toList.length + 2 * w.toJson.toList.length) (Nat.le_max_right _ _)
    (Nat.le_add_left _ _)
  rw [h, hright] at hleft
  obtain ⟨hvalue, hrest⟩ := Prod.mk.inj (Option.some.inj hleft)
  exact ⟨hvalue.symm, hrest.symm⟩

/-- Printing loses nothing. In both layouts the text of a value without floats is a JSON text
that is read as an equal value, and it stands for no other one. So values without floats have
the same text exactly if they are equal up to the order of fields, which is when they agree
structurally. -/
theorem render_roundTrip (hv : v.isFloatFree = true) :
    (∃ u, v.Equal u ∧ ∀ layout,
      IsText v.nesting u (render layout v) ∧
      (∀ depth, v.nesting ≤ depth → read? depth (render layout v) = some u) ∧
      ∀ depth other, IsText depth other (render layout v) → other = u) ∧
    ∀ w, w.isFloatFree = true →
      (∀ layout, render layout v = render layout w ↔ v.Equal w) ∧
      (v.Equal w ↔ v.same w = true) := by
  have hequal : v.Equal v.normalize :=
    Value.equal_iff_normalize.2 (Value.normalize_normalize v).symm
  refine ⟨⟨v.normalize, hequal, fun layout => ?_⟩, fun w hw => ?_⟩
  · have htext := isText_render layout hv
    exact ⟨htext, fun _ => read?_of_isText htext, fun _ _ hother => eq_of_isText hother htext⟩
  · exact ⟨fun layout => render_eq_iff layout hv hw, (Value.same_iff_equal hv).symm⟩

/-- Fields out of order, with escapes in a name and in a string. -/
theorem render_roundTrip_escapes :
    (Value.object [("b\n", .array [.integer (-1), .null]), ("a", .string "\"\\\x01")]).isFloatFree =
        true ∧
      ∃ u, (Value.object [("b\n", .array [.integer (-1), .null]),
          ("a", .string "\"\\\x01")]).Equal u ∧
        read? documentDepth (render .indented (.object [("b\n", .array [.integer (-1), .null]),
          ("a", .string "\"\\\x01")])) = some u := by
  refine ⟨rfl, ?_⟩
  obtain ⟨⟨u, hequal, hread⟩, -⟩ := @render_roundTrip (.object
    [("b\n", .array [.integer (-1), .null]), ("a", .string "\"\\\x01")]) rfl
  exact ⟨u, hequal, (hread .indented).2.1 documentDepth (by decide)⟩

end Json

end RecordFilter
