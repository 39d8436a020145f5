import Mathlib.Data.List.Forall2
import RecordFilter.Value.Basic

/-!
# Equality up to the order of fields

Two values are equal if they differ in nothing but the order in which their objects list
their fields. `Equal` says so without putting the fields in an order: objects are equal if
equal values, or none, are found under each name.

The sorted forms of values are equal exactly if the values are (`equal_iff_normalize`), which
rests on the fields of a sorted list being told by what is found in it
(`eq_of_forall_lookup_eq`). Structural agreement is this equality where no float is around
(`same_iff_equal`).

Proofs about all values go by `inductionOn`, whose cases have the claim for all items of an
array and for the values of all fields of an object.
-/

namespace RecordFilter.Value

/-- Induction on values, where scalars are done without a hypothesis. -/
@[elab_as_elim]
theorem inductionOn {motive : Value → Prop} (scalar : ∀ v : Value, v.isScalar = true → motive v)
    (array : ∀ items, (∀ v ∈ items, motive v) → motive (.array items))
    (object : ∀ fields, (∀ entry ∈ fields, motive entry.2) → motive (.object fields))
    (v : Value) : motive v :=
  match v with
  | .null | .boolean _ | .integer _ | .float _ | .string _ => scalar _ rfl
  | .array items => array items (ofItems items)
  | .object fields => object fields (ofFields fields)
where
  ofItems : ∀ items : List Value, ∀ v ∈ items, motive v
    | [] => List.forall_mem_nil _
    | v :: vs => List.forall_mem_cons.2 ⟨inductionOn scalar array object v, ofItems vs⟩
  ofFields : ∀ fields : List (String × Value), ∀ entry ∈ fields, motive entry.2
    | [] => List.forall_mem_nil _
    | (_, v) :: rest => List.forall_mem_cons.2 ⟨inductionOn scalar array object v, ofFields rest⟩

/-- Values that differ in nothing but the order of the fields of objects. -/
inductive Equal : Value → Value → Prop
  | scalar {v : Value} (h : v.isScalar = true) : Equal v v
  | array {xs ys : List Value} (h : List.Forall₂ Equal xs ys) : Equal (.array xs) (.array ys)
  | object {xs ys : List (String × Value)}
      (h : ∀ name, Option.Rel Equal (xs.lookup name) (ys.lookup name)) :
      Equal (.object xs) (.object ys)

/-! ### Sorted fields -/

section Fields

variable {α : Type}

def Ascending (fields : List (String × α)) : Prop :=
  fields.Pairwise fun a b => compare a.1 b.1 = .lt

theorem mem_of_mem_insertField {name : String} {a : α} {fields : List (String × α)}
    {entry : String × α} (h : entry ∈ insertField name a fields) :
    entry = (name, a) ∨ entry ∈ fields := by
  induction fields with
  | nil => exact .inl (List.mem_singleton.1 h)
  | cons head rest ih =>
      rw [insertField] at h
      split at h
      · exact List.mem_cons.1 h
      · exact (List.mem_cons.1 h).imp_right (List.mem_cons_of_mem _)
      · rcases List.mem_cons.1 h with rfl | h
        · exact .inr List.mem_cons_self
        · exact (ih h).imp_right (List.mem_cons_of_mem _)

theorem mem_of_mem_sortFields {fields : List (String × α)} {entry : String × α}
    (h : entry ∈ sortFields fields) : entry ∈ fields := by
  induction fields with
  | nil => exact h
  | cons head rest ih =>
      rcases mem_of_mem_insertField h with rfl | h
      · exact List.mem_cons_self
      · exact List.mem_cons_of_mem _ (ih h)

theorem ascending_insertField {name : String} {a : α} {fields : List (String × α)}
    (h : Ascending fields) : Ascending (insertField name a fields) := by
  induction fields with
  | nil => exact List.pairwise_singleton _ _
  | cons head rest ih =>
      obtain ⟨other, b⟩ := head
      obtain ⟨hhead, hrest⟩ := List.pairwise_cons.1 h
      rw [insertField]
      split
      · next hlt =>
          refine List.pairwise_cons.2 ⟨List.forall_mem_cons.2 ⟨hlt, fun entry hentry => ?_⟩, h⟩
          exact Std.TransCmp.lt_trans hlt (hhead entry hentry)
      · next heq =>
          obtain rfl := Std.LawfulEqOrd.eq_of_compare heq
          exact List.pairwise_cons.2 ⟨hhead, hrest⟩
      · next hgt =>
          refine List.pairwise_cons.2 ⟨fun entry hentry => ?_, ih hrest⟩
          rcases mem_of_mem_insertField hentry with rfl | hentry
          · exact Std.OrientedCmp.gt_iff_lt.1 hgt
          · exact hhead entry hentry

theorem ascending_sortFields (fields : List (String × α)) : Ascending (sortFields fields) := by
  induction fields with
  | nil => exact List.Pairwise.nil
  | cons head rest ih => exact ascending_insertField ih

theorem lookup_eq_none_of_forall_lt {name : String} {fields : List (String × α)}
    (h : ∀ entry ∈ fields, compare name entry.1 = .lt) : fields.lookup name = none := by
  rw [List.lookup_eq_none_iff]
  intro entry hentry
  rw [bne_iff_ne]
  intro heq
  have hlt := h entry hentry
  rw [heq] at hlt
  exact absurd (hlt.symm.trans Std.ReflOrd.compare_self) (by decide)

theorem not_lt_of_lookup_eq {m n : String} {v w : α} {xs ys : List (String × α)}
    (hys : Ascending ((n, w) :: ys))
    (h : ((m, v) :: xs).lookup m = ((n, w) :: ys).lookup m) : compare m n ≠ .lt := by
  intro hlt
  have hnone : ((n, w) :: ys).lookup m = none := by
    apply lookup_eq_none_of_forall_lt
    refine List.forall_mem_cons.2 ⟨hlt, fun entry hentry => ?_⟩
    exact Std.TransCmp.lt_trans hlt ((List.pairwise_cons.1 hys).1 entry hentry)
  rw [hnone, lookup_cons_ite, if_pos rfl] at h
  cases h

/-- Fields in order are told by what is found under each name. -/
theorem eq_of_forall_lookup_eq {xs ys : List (String × α)} (hxs : Ascending xs)
    (hys : Ascending ys) (h : ∀ name, xs.lookup name = ys.lookup name) : xs = ys := by
  induction xs generalizing ys with
  | nil =>
      cases ys with
      | nil => rfl
      | cons y ys =>
          have hy := h y.1
          rw [lookup_cons_ite, if_pos rfl] at hy
          cases hy
  | cons x xs ih =>
      obtain ⟨m, v⟩ := x
      cases ys with
      | nil =>
          have hm := h m
          rw [lookup_cons_ite, if_pos rfl] at hm
          cases hm
      | cons y ys =>
          obtain ⟨n, w⟩ := y
          obtain ⟨hx, hxs'⟩ := List.pairwise_cons.1 hxs
          obtain ⟨hy, hys'⟩ := List.pairwise_cons.1 hys
          obtain rfl : m = n := by
            apply Std.LawfulEqOrd.eq_of_compare
            have hlt := not_lt_of_lookup_eq hys (h m)
            have hgt := not_lt_of_lookup_eq hxs (h n).symm
            cases hcompare : compare m n with
            | lt => exact absurd hcompare hlt
            | eq => rfl
            | gt => exact absurd (Std.OrientedCmp.gt_iff_lt.1 hcompare) hgt
          have hvw : v = w := by simpa [lookup_cons_ite] using h m
          rw [hvw, ih hxs' hys']
          intro name
          by_cases hname : name = m
          · rw [hname, lookup_eq_none_of_forall_lt hx, lookup_eq_none_of_forall_lt hy]
          · simpa [lookup_cons_ite, hname] using h name

end Fields

/-! ### Sorted forms -/

theorem normalizeItems_eq_map (items : List Value) :
    normalizeItems items = items.map normalize := by
  induction items with
  | nil => rfl
  | cons v vs ih => rw [normalizeItems, ih, List.map_cons]

theorem normalizeFields_eq_map (fields : List (String × Value)) :
    normalizeFields fields = fields.map fun entry => (entry.1, entry.2.normalize) := by
  induction fields with
  | nil => rfl
  | cons entry rest ih => rw [normalizeFields, ih, List.map_cons]

theorem lookup_normalizeFields (name : String) (fields : List (String × Value)) :
    (normalizeFields fields).lookup name = (fields.lookup name).map normalize := by
  induction fields with
  | nil => rfl
  | cons entry rest ih =>
      rw [normalizeFields, lookup_cons_ite, lookup_cons_ite, ih]
      split <;> rfl

theorem exists_of_mem_normalize {fields : List (String × Value)} {entry : String × Value}
    (h : entry ∈ sortFields (normalizeFields fields)) :
    ∃ field ∈ fields, entry.2 = field.2.normalize := by
  have hmem := mem_of_mem_sortFields h
  rw [normalizeFields_eq_map] at hmem
  obtain ⟨field, hfield, rfl⟩ := List.mem_map.1 hmem
  exact ⟨field, hfield, rfl⟩

theorem mem_of_lookup_eq_some {name : String} {v : Value} {fields : List (String × Value)}
    (h : fields.lookup name = some v) : (name, v) ∈ fields := by
  induction fields with
  | nil => cases h
  | cons entry rest ih =>
      rw [lookup_cons_ite] at h
      split at h
      · next heq =>
          cases h
          rw [heq]
          exact List.mem_cons_self
      · exact List.mem_cons_of_mem _ (ih h)

theorem eq_of_normalize_eq_of_isScalar {v w : Value} (hv : v.isScalar = true)
    (h : v.normalize = w.normalize) : v = w := by
  cases v with
  | array items => cases hv
  | object fields => cases hv
  | _ => cases w <;> simp_all [normalize]

theorem forall₂_iff_map_normalize {xs ys : List Value}
    (h : ∀ x ∈ xs, ∀ y, x.Equal y ↔ x.normalize = y.normalize) :
    List.Forall₂ Equal xs ys ↔ xs.map normalize = ys.map normalize := by
  induction xs generalizing ys with
  | nil => simp
  | cons x xs ih =>
      rw [List.forall_mem_cons] at h
      cases ys with
      | nil => simp
      | cons y ys =>
          rw [List.forall₂_cons, ih h.2, h.1, List.map_cons, List.map_cons, List.cons.injEq]

theorem rel_iff_map_normalize {x y : Option Value}
    (h : ∀ v ∈ x, ∀ w, v.Equal w ↔ v.normalize = w.normalize) :
    Option.Rel Equal x y ↔ x.map normalize = y.map normalize := by
  cases x with
  | none => cases y <;> simp
  | some v =>
      cases y with
      | none => simp
      | some w => simp [h v rfl]

theorem sortFields_eq_iff {xs ys : List (String × Value)} :
    sortFields xs = sortFields ys ↔ ∀ name, xs.lookup name = ys.lookup name := by
  refine ⟨fun h name => ?_, fun h => ?_⟩
  · rw [← lookup_sortFields, h, lookup_sortFields]
  · apply eq_of_forall_lookup_eq (ascending_sortFields xs) (ascending_sortFields ys)
    intro name
    rw [lookup_sortFields, lookup_sortFields, h]

/-- Equal values are those with the same sorted form. -/
theorem equal_iff_normalize {v w : Value} : v.Equal w ↔ v.normalize = w.normalize := by
  induction v using inductionOn generalizing w with
  | scalar v hv =>
      refine ⟨fun h => ?_, fun h => ?_⟩
      · cases h with
        | scalar => rfl
        | array | object => cases hv
      · rw [← eq_of_normalize_eq_of_isScalar hv h]
        exact .scalar hv
  | array xs ih =>
      have hitems : ∀ ys, List.Forall₂ Equal xs ys ↔
          (array xs).normalize = (array ys).normalize := by
        intro ys
        rw [forall₂_iff_map_normalize fun x hx y => ih x hx, normalize, normalize, array.injEq,
          normalizeItems_eq_map, normalizeItems_eq_map]
      refine ⟨fun h => ?_, fun h => ?_⟩
      · cases h with
        | scalar h => cases h
        | array h => exact (hitems _).1 h
      · cases w with
        | array ys => exact .array ((hitems ys).2 h)
        | _ => cases h
  | object xs ih =>
      have hfields : ∀ ys, (∀ name, Option.Rel Equal (xs.lookup name) (ys.lookup name)) ↔
          (object xs).normalize = (object ys).normalize := by
        intro ys
        rw [normalize, normalize, object.injEq, sortFields_eq_iff]
        refine forall_congr' fun name => ?_
        rw [lookup_normalizeFields, lookup_normalizeFields, rel_iff_map_normalize]
        intro v hv w
        exact ih _ (mem_of_lookup_eq_some hv)
      refine ⟨fun h => ?_, fun h => ?_⟩
      · cases h with
        | scalar h => cases h
        | object h => exact (hfields _).1 h
      · cases w with
        | object ys => exact .object ((hfields ys).2 h)
        | _ => cases h

theorem normalize_normalize (v : Value) : v.normalize.normalize = v.normalize := by
  induction v using inductionOn with
  | scalar v hv => cases v <;> first | rfl | cases hv
  | array items ih =>
      rw [normalize, normalizeItems_eq_map, normalize, normalizeItems_eq_map, List.map_map]
      exact congrArg array (List.map_congr_left ih)
  | object fields ih =>
      rw [normalize, normalize, object.injEq, sortFields_eq_iff]
      intro name
      rw [lookup_normalizeFields, lookup_sortFields, lookup_normalizeFields]
      cases hname : fields.lookup name with
      | none => rfl
      | some v => exact congrArg some (ih _ (mem_of_lookup_eq_some hname))

/-! ### Values without floats -/

mutual

def isFloatFree : Value → Bool
  | null => true
  | boolean _ => true
  | integer _ => true
  | float _ => false
  | string _ => true
  | array items => isFloatFreeItems items
  | object fields => isFloatFreeFields fields

def isFloatFreeItems : List Value → Bool
  | [] => true
  | v :: vs => isFloatFree v && isFloatFreeItems vs

def isFloatFreeFields : List (String × Value) → Bool
  | [] => true
  | (_, v) :: rest => isFloatFree v && isFloatFreeFields rest

end

theorem isFloatFreeItems_iff {items : List Value} :
    isFloatFreeItems items = true ↔ ∀ v ∈ items, v.isFloatFree = true := by
  induction items with
  | nil => simp [isFloatFreeItems]
  | cons v vs ih => rw [isFloatFreeItems, Bool.and_eq_true, ih, List.forall_mem_cons]

theorem isFloatFreeFields_iff {fields : List (String × Value)} :
    isFloatFreeFields fields = true ↔ ∀ entry ∈ fields, entry.2.isFloatFree = true := by
  induction fields with
  | nil => simp [isFloatFreeFields]
  | cons entry rest ih => rw [isFloatFreeFields, Bool.and_eq_true, ih, List.forall_mem_cons]

theorem agreeItems_iff {xs ys : List Value} (h : ∀ x ∈ xs, ∀ y, agree x y = true ↔ x = y) :
    agreeItems xs ys = true ↔ xs = ys := by
  induction xs generalizing ys with
  | nil => cases ys <;> simp [agreeItems]
  | cons x xs ih =>
      rw [List.forall_mem_cons] at h
      cases ys with
      | nil => simp [agreeItems]
      | cons y ys => rw [agreeItems, Bool.and_eq_true, h.1, ih h.2, List.cons.injEq]

theorem agreeFields_iff {xs ys : List (String × Value)}
    (h : ∀ x ∈ xs, ∀ y, agree x.2 y = true ↔ x.2 = y) : agreeFields xs ys = true ↔ xs = ys := by
  induction xs generalizing ys with
  | nil => cases ys <;> simp [agreeFields]
  | cons x xs ih =>
      rw [List.forall_mem_cons] at h
      cases ys with
      | nil => simp [agreeFields]
      | cons y ys =>
          rw [agreeFields, Bool.and_eq_true, Bool.and_eq_true, beq_iff_eq, h.1, ih h.2,
            List.cons.injEq, Prod.ext_iff]

theorem agree_iff_eq {v w : Value} (hv : v.isFloatFree = true) : agree v w = true ↔ v = w := by
  induction v using inductionOn generalizing w with
  | scalar v hscalar =>
      cases v with
      | float x => cases hv
      | array items => cases hscalar
      | object fields => cases hscalar
      | _ => cases w <;> simp [agree]
  | array xs ih =>
      rw [isFloatFree, isFloatFreeItems_iff] at hv
      cases w with
      | array ys =>
          rw [agree, agreeItems_iff fun x hx y => ih x hx (hv x hx), array.injEq]
      | _ => simp [agree]
  | object xs ih =>
      rw [isFloatFree, isFloatFreeFields_iff] at hv
      cases w with
      | object ys =>
          rw [agree, agreeFields_iff fun x hx y => ih x hx (hv x hx), object.injEq]
      | _ => simp [agree]

theorem isFloatFree_normalize {v : Value} (hv : v.isFloatFree = true) :
    v.normalize.isFloatFree = true := by
  induction v using inductionOn with
  | scalar v hscalar => cases v <;> simp_all [isFloatFree, normalize, isScalar]
  | array items ih =>
      rw [isFloatFree, isFloatFreeItems_iff] at hv
      rw [normalize, isFloatFree, isFloatFreeItems_iff, normalizeItems_eq_map,
        List.forall_mem_map]
      exact fun v hmem => ih v hmem (hv v hmem)
  | object fields ih =>
      rw [isFloatFree, isFloatFreeFields_iff] at hv
      rw [normalize, isFloatFree, isFloatFreeFields_iff]
      intro entry hentry
      obtain ⟨field, hfield, heq⟩ := exists_of_mem_normalize hentry
      rw [heq]
      exact ih field hfield (hv field hfield)

/-- Of values without floats those are the same that are equal up to the order of fields. -/
theorem same_iff_equal {v w : Value} (hv : v.isFloatFree = true) :
    v.same w = true ↔ v.Equal w := by
  rw [same, agree_iff_eq (isFloatFree_normalize hv), equal_iff_normalize]

end RecordFilter.Value
