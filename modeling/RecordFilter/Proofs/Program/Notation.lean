import RecordFilter.Proofs.Program.Hoisting
import RecordFilter.Proofs.Query.Legible

/-!
# The body of a program tells what it answers

Programs with the same body and with literals that are given alike answer the same, faults
included, be it for records or for columns (`Compilation.answer_eq_of_shownAlike`). They may
be different programs still. A range and its two comparisons have the same text among
conjuncts, and the fields of a literal may be given in any order.

The text of the predicate tells its canonical form, and this answers as the predicate does. It
refers to its literals by their slots, and of these a test asks no more than the pattern or the
keys of the members (`Hoisted.asked`), which are the same if the literals are given alike.

Two things are asked of the expressions (`Expression.IsPlain`): that they have no floats, which
may be shown as an integer or as `null` is, and that they ask no custom operators, which are
shown by their names alone and may be registered differently elsewhere.
-/

namespace RecordFilter

/-! ### Literals that are given alike -/

namespace Hoisted

/-- The literals are given alike: by equal members one after the other, or by the same source
with the same case flag. -/
inductive Alike : Hoisted → Hoisted → Prop
  | pattern {p p' : Pattern} (hsource : p.source = p'.source)
      (hcase : p.ignoreCase = p'.ignoreCase) : Alike (.pattern p) (.pattern p')
  | members {s s' : MemberSet} (hitems : List.Forall₂ Value.Equal s.items s'.items) :
      Alike (.members s) (.members s')

def asked : Hoisted → Pattern ⊕ List MemberKey
  | pattern p => .inl p
  | members s => .inr s.keys

end Hoisted

theorem MemberKey.ofValue?_eq_of_equal {v w : Value} (h : v.Equal w) : ofValue? v = ofValue? w := by
  cases h <;> rfl

theorem MemberSet.keys_eq_of_equal {items items' : List Value}
    (h : List.Forall₂ Value.Equal items items') : (ofItems items).keys = (ofItems items').keys := by
  have hkeys : items.filterMap MemberKey.ofValue? = items'.filterMap MemberKey.ofValue? := by
    induction h with
    | nil => rfl
    | cons hhead htail ih =>
        rw [List.filterMap_cons, List.filterMap_cons, MemberKey.ofValue?_eq_of_equal hhead, ih]
  rw [ofItems, ofItems, hkeys]

namespace Hoisted

theorem Alike.asked_eq {entry entry' : Hoisted} (h : entry.Alike entry') (hentry : entry.Prepared)
    (hentry' : entry'.Prepared) : entry.asked = entry'.asked := by
  cases h with
  | @pattern p p' hsource hcase =>
      cases hentry with
      | pattern hread =>
          cases hentry' with
          | pattern hread' =>
              obtain ⟨rfl, rfl⟩ := Pattern.read_eq_ok hread
              obtain ⟨rfl, rfl⟩ := Pattern.read_eq_ok hread'
              rw [hsource, hcase, hread'] at hread
              cases hread
              rfl
  | members hitems =>
      cases hentry with
      | members items =>
          cases hentry' with
          | members items' => exact congrArg Sum.inr (MemberSet.keys_eq_of_equal hitems)

theorem map_asked_eq {table table' : HoistTable} (h : List.Forall₂ Alike table table')
    (htable : ∀ entry ∈ table, entry.Prepared) (htable' : ∀ entry ∈ table', entry.Prepared) :
    table.map asked = table'.map asked := by
  induction h with
  | nil => rfl
  | cons hhead _ ih =>
      rw [List.forall_mem_cons] at htable htable'
      rw [List.map_cons, List.map_cons, hhead.asked_eq htable.1 htable'.1, ih htable.2 htable'.2]

end Hoisted

namespace HoistTable

theorem pattern?_eq_asked (table : HoistTable) (slot : Slot) :
    table.pattern? slot = (table.map Hoisted.asked)[slot]?.bind Sum.getLeft? := by
  rw [pattern?, List.getElem?_map]
  rcases table[slot]? with _ | _ | _ <;> rfl

theorem map_keys_members? (table : HoistTable) (slot : Slot) :
    (table.members? slot).map MemberSet.keys =
      (table.map Hoisted.asked)[slot]?.bind Sum.getRight? := by
  rw [members?, List.getElem?_map]
  rcases table[slot]? with _ | _ | _ <;> rfl

end HoistTable

namespace Predicate

variable {table table' : HoistTable}

theorem evalTest_congr (h : table.map Hoisted.asked = table'.map Hoisted.asked) (path : Path)
    (t : Test Slot Slot) (scope : Scope) :
    evalTest table path t scope = evalTest table' path t scope := by
  cases t with
  | member slot =>
      have hkeys : (table.members? slot).map MemberSet.keys =
          (table'.members? slot).map MemberSet.keys := by
        rw [HoistTable.map_keys_members?, HoistTable.map_keys_members?, h]
      rw [evalTest, evalTest, Test.fetch?, Test.fetch?]
      cases hset : table.members? slot with
      | none =>
          rw [hset] at hkeys
          rw [Option.map_eq_none_iff.1 hkeys.symm]
      | some set =>
          rw [hset] at hkeys
          obtain ⟨set', hset', hsame⟩ := Option.map_eq_some_iff.1 hkeys.symm
          have hcontains : set.contains = set'.contains := by
            funext v
            rw [MemberSet.contains, MemberSet.contains, hsame]
          rw [hset']
          simp only [Option.map_some, Test.holds, hcontains]
  | pattern slot =>
      rw [evalTest, evalTest, Test.fetch?, Test.fetch?, HoistTable.pattern?_eq_asked,
        HoistTable.pattern?_eq_asked, h]
  | _ => rfl

mutual

/-- Nothing matters of the literals but what they are asked. -/
theorem eval_congr (h : table.map Hoisted.asked = table'.map Hoisted.asked) (p : Predicate)
    (scope : Scope) : p.eval table scope = p.eval table' scope := by
  match p with
  | never | custom _ _ _ => rfl
  | combine c children => exact evalAll_congr h c children scope
  | not body => rw [eval, eval, eval_congr h body]
  | quantify path q body => rw [eval, eval, funext (eval_congr h body)]
  | test path t => exact evalTest_congr h path t scope

theorem evalAll_congr (h : table.map Hoisted.asked = table'.map Hoisted.asked) (c : Combinator)
    (ps : List Predicate) (scope : Scope) :
    evalAll table c ps scope = evalAll table' c ps scope := by
  match ps with
  | [] => rfl
  | p :: ps => rw [evalAll_cons, evalAll_cons, eval_congr h p, evalAll_congr h c ps]

end

end Predicate

/-! ### Paths of programs -/

/-- The paths that programs can have: those that are read, and those to the cells that stand
for them in some layout. -/
inductive Path.Arises : Path → Prop
  | read {chain : Bool} {raw : String} {path : Path} (h : Path.read? chain raw = some path) :
      Arises path
  | placed {layout : Layout} {path path' : Path} (h : layout.placePath path = .ok path')
      (hpath : Arises path) : Arises path'

theorem Path.Legible.placePath {layout : Layout} {path path' : Path}
    (hplaced : layout.placePath path = .ok path') (h : path.Legible) : path'.Legible := by
  rcases Layout.cases_of_placePath hplaced with ⟨rfl, -⟩ | ⟨column, used, rfl⟩
  · exact h
  · exact ⟨fun s hs => h.spelled s (List.mem_of_mem_drop hs), nofun⟩

theorem Path.Arises.legible {path : Path} (h : path.Arises) : path.Legible := by
  induction h with
  | read h => exact legible_of_read? h
  | placed h _ ih => exact ih.placePath h

/-! ### Programs -/

namespace Program

/-- The program is one whose text, together with its literals, tells what it answers. -/
structure Legible (p : Program) : Prop where
  root : p.root.Legible
  paths : p.root.everyPath Path.Legible
  table : ∀ entry ∈ p.table, entry.Prepared

/-- The programs are shown with the same body and with literals that are given alike. -/
structure ShownAlike (p q : Program) : Prop where
  body : p.body = q.body
  table : List.Forall₂ Hoisted.Alike p.table q.table

theorem Legible.eval_eq {p q : Program} (hp : p.Legible) (hq : q.Legible) (h : p.ShownAlike q)
    (scope : Scope) : p.eval scope = q.eval scope := by
  have htext : p.root.canonical.describe = q.root.canonical.describe := by
    rw [Predicate.describe_canonical, Predicate.describe_canonical]
    exact h.body
  have hcanonical : p.root.canonical = q.root.canonical :=
    (hp.root.told_canonical hp.paths).describe_inj (hq.root.told_canonical hq.paths) htext
  have hasked := Hoisted.map_asked_eq h.table hp.table hq.table
  calc p.root.eval p.table scope = p.root.canonical.eval p.table scope :=
        (p.root.eval_canonical scope).symm
    _ = q.root.canonical.eval p.table scope := by rw [hcanonical]
    _ = q.root.eval p.table scope := q.root.eval_canonical scope
    _ = q.root.eval q.table scope := Predicate.eval_congr hasked q.root scope

end Program

/-- The expression has no floats in it, and none of its nodes goes to a custom operator. -/
structure Expression.IsPlain (options : CompileOptions) (expr : Value) : Prop where
  isFloatFree : expr.isFloatFree = true
  isBuiltIn : (Query.read options expr).isBuiltIn = true

theorem Compilation.Places.legible {options : CompileOptions}
    {compile : Value → Compilation Program} {place : Predicate → Predicate}
    {fits : Predicate → Bool} (h : Places options compile place fits)
    (hplace : ∀ p : Predicate, p.Legible → (place p).Legible)
    (hpaths : ∀ p : Predicate, p.everyPath Path.Legible → (place p).everyPath Path.Legible)
    {expr : Value} {p : Program} (hexpr : Expression.IsPlain options expr)
    (hp : (compile expr).outcome = .ok p) : p.Legible := by
  have hquery := Query.legible_read expr hexpr.isFloatFree hexpr.isBuiltIn
  have heverywhere := h.everyPath (fun _ _ => Path.legible_of_read?) hpaths hp
  obtain ⟨-, rfl⟩ := (h.outcome_iff _ _).1 hp
  exact ⟨hplace _ (hquery.predicate 0), heverywhere, hquery.prepared⟩

theorem Program.legible_of_compile {options : CompileOptions} {expr : Value} {p : Program}
    (hexpr : Expression.IsPlain options expr) (hp : (compile options expr).outcome = .ok p) :
    p.Legible :=
  (places_compile options).legible (fun _ h => h) (fun _ h => h) hexpr hp

theorem ColumnProgram.legible_of_compile {names : Option (List String)}
    {options : CompileOptions} {expr : Value} {p : ColumnProgram}
    (hexpr : Expression.IsPlain options expr)
    (hp : (compile names options expr).outcome = .ok p) : p.program.Legible := by
  obtain ⟨layout, hl, hmap⟩ := exists_layout_of_compile hp
  exact (places_compile hl options).legible (fun _ h => h.image layout)
    (fun _ h => layout.everyPath_image (fun _ _ => Path.Legible.placePath) h) hexpr hmap

namespace Compilation

/-- Programs have no other paths. -/
theorem everyPath_arises (options : CompileOptions) (names : Option (List String))
    (expr : Value) :
    (∀ p, (Program.compile options expr).outcome = .ok p → p.root.everyPath Path.Arises) ∧
      ∀ p, (ColumnProgram.compile names options expr).outcome = .ok p →
        p.program.root.everyPath Path.Arises := by
  constructor
  · intro p hp
    exact (Program.places_compile options).everyPath (fun _ _ => .read) (fun _ h => h) hp
  · intro p hp
    obtain ⟨layout, hl, hmap⟩ := ColumnProgram.exists_layout_of_compile hp
    exact (ColumnProgram.places_compile hl options).everyPath (fun _ _ => .read)
      (fun _ h => layout.everyPath_image (fun _ _ => .placed) h) hmap

/-- Of plain expressions, programs over records that are shown alike answer the same, and so do
programs over columns; and no two paths are shown with the same text. -/
theorem answer_eq_of_shownAlike :
    (∀ options options' expr expr', Expression.IsPlain options expr →
      Expression.IsPlain options' expr' →
        (∀ p q, (Program.compile options expr).outcome = .ok p →
          (Program.compile options' expr').outcome = .ok q → p.ShownAlike q →
            ∀ record position, p.answer record position = q.answer record position) ∧
        ∀ names names' p q, (ColumnProgram.compile names options expr).outcome = .ok p →
          (ColumnProgram.compile names' options' expr').outcome = .ok q →
            p.program.ShownAlike q.program →
              ∀ columns row, p.answer columns row = q.answer columns row) ∧
      ∀ path path' : Path, path.Arises → path'.Arises → path.text = path'.text →
        path = path' := by
  refine ⟨fun options options' expr expr' hexpr hexpr' => ⟨?_, ?_⟩, ?_⟩
  · intro p q hp hq h record position
    exact (Program.legible_of_compile hexpr hp).eval_eq (Program.legible_of_compile hexpr' hq) h _
  · intro names names' p q hp hq h columns row
    exact (ColumnProgram.legible_of_compile hexpr hp).eval_eq
      (ColumnProgram.legible_of_compile hexpr' hq) h _
  · intro path path' hpath hpath' h
    exact Path.text_inj hpath.legible hpath'.legible h

/-- A range beside a member with two fields, and its comparisons beside the member with the
fields the other way round, over records and over columns, with a path in brackets. -/
theorem answer_eq_of_shownAlike_range :
    ∃ range comparisons : Value,
      range = .array [.string "&&",
        .array [.string "-", .string ".a", .array [.integer 1, .integer 2]],
        .array [.string "in", .string ".b",
          .array [.object [("x", .integer 1), ("y", .null)]]]] ∧
      comparisons = .array [.string "&&",
        .array [.string ">=", .string "[a]", .integer 1],
        .array [.string "<=", .string ".a", .integer 2],
        .array [.string "in", .string ".b",
          .array [.object [("y", .null), ("x", .integer 1)]]]] ∧
      (∃ p q, (Program.compile ⟨false, false, []⟩ range).outcome = .ok p ∧
        (Program.compile ⟨false, true, []⟩ comparisons).outcome = .ok q ∧
        p.body = "($.a >= 1 && $.a <= 2 && $.b in #0)" ∧ p.root.size ≠ q.root.size ∧
        ∀ record position, p.answer record position = q.answer record position) ∧
      (∃ p q, (ColumnProgram.compile (some [".a", ".b"]) ⟨false, false, []⟩ range).outcome =
          .ok p ∧
        (ColumnProgram.compile (some [".a", ".b"]) ⟨false, true, []⟩ comparisons).outcome =
          .ok q ∧
        p.body = "($[0][$i] >= 1 && $[0][$i] <= 2 && $[1][$i] in #0)" ∧
        ∀ columns row, p.answer columns row = q.answer columns row) ∧
      ∃ path path', Path.read? false ".a" = some path ∧ Path.read? false "[a]" = some path' ∧
        path = path' := by
  obtain ⟨hanswer, htext⟩ := answer_eq_of_shownAlike
  refine ⟨_, _, rfl, rfl, ?_⟩
  obtain ⟨hrows, hcolumns⟩ := hanswer ⟨false, false, []⟩ ⟨false, true, []⟩ _ _
    (⟨rfl, rfl⟩ : Expression.IsPlain ⟨false, false, []⟩ (.array [.string "&&",
      .array [.string "-", .string ".a", .array [.integer 1, .integer 2]],
      .array [.string "in", .string ".b",
        .array [.object [("x", .integer 1), ("y", .null)]]]]))
    (⟨rfl, rfl⟩ : Expression.IsPlain ⟨false, true, []⟩ (.array [.string "&&",
      .array [.string ">=", .string "[a]", .integer 1],
      .array [.string "<=", .string ".a", .integer 2],
      .array [.string "in", .string ".b",
        .array [.object [("y", .null), ("x", .integer 1)]]]]))
  have hmembers : Hoisted.Alike
      (.members (.ofItems [.object [("x", .integer 1), ("y", .null)]]))
      (.members (.ofItems [.object [("y", .null), ("x", .integer 1)]])) :=
    .members (.cons (Value.equal_iff_normalize.2 rfl) .nil)
  obtain ⟨path, hpath⟩ : ∃ path, Path.read? false ".a" = some path := ⟨_, rfl⟩
  obtain ⟨path', hpath'⟩ : ∃ path, Path.read? false "[a]" = some path := ⟨_, rfl⟩
  have hsame : path.text = path'.text := by
    cases hpath
    cases hpath'
    rfl
  refine ⟨⟨_, _, rfl, rfl, rfl, by decide, ?_⟩, ⟨_, _, rfl, rfl, rfl, ?_⟩,
    path, path', hpath, hpath', htext _ _ (.read hpath) (.read hpath') hsame⟩
  · exact hrows _ _ rfl rfl ⟨rfl, .cons hmembers .nil⟩
  · exact hcolumns (some [".a", ".b"]) (some [".a", ".b"]) _ _ rfl rfl
      ⟨rfl, .cons hmembers .nil⟩

end Compilation

end RecordFilter
