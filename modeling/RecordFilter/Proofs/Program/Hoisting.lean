import RecordFilter.Proofs.Expression.Literals
import RecordFilter.Proofs.Program.Strictness
import RecordFilter.Proofs.Query.Paths

/-!
# The hoist table of a program

A program refers to the entries of its table in the order of the expression, each at most
once, and in each slot it finds what the node says that asks for it (`NumbersLiterals`).
So the answers for slots with a missing entry are never given. Entries that nothing
refers to are those of nodes that were given up; if the compilation warns of none, every
node is left and every entry is referred to. The table of a combinator is made of the
tables that its children have on their own, one behind the other, and the children refer
to theirs shifted by the entries in front.

All of this holds over records and over columns (`numbersLiterals_compile`). What the two
share is that the predicate of the query is placed somehow, which loses tests and nothing
else (`Predicate.Placing`); over records it is left as it is.
-/

namespace RecordFilter

/-- The roots of some programs for one table, in which each has its literals behind those
of the programs in front of it. -/
def Program.rootsFrom (slot : Slot) : List Program → List Predicate
  | [] => []
  | p :: ps => p.root.shift slot :: rootsFrom (slot + p.table.length) ps

namespace Compilation

def map {α β : Type} (f : α → β) (c : Compilation α) : Compilation β :=
  ⟨c.outcome.map f, c.events⟩

/-- A way to compile that numbers the literals of an expression from left to right and
finds them again. -/
structure NumbersLiterals (options : CompileOptions) (compile : Value → Compilation Program) :
    Prop where
  ascending : ∀ expr p, (compile expr).outcome = .ok p → p.root.slots.Pairwise (· < ·)
  inTable : ∀ expr p, (compile expr).outcome = .ok p →
    ∀ slot ∈ p.root.slots, slot < p.table.length
  own : ∀ expr p, (compile expr).outcome = .ok p →
    Expression.HoistsTo options p.table true expr p.root
  found : ∀ expr p, (compile expr).outcome = .ok p →
    ∀ t ∈ p.root.tests, (t.fetch? p.table).isSome = true
  exact_of_quiet : ∀ expr p, (compile expr).outcome = .ok p →
    (∀ event ∈ (compile expr).events, event.isWarning = false) →
      Expression.HoistsTo options p.table false expr p.root ∧
        p.root.slots = List.range p.table.length
  combine : ∀ token c operands p,
    options.registry.get? (Token.resolve token).name = none →
    Operator.ofToken? (Token.resolve token).name = some (.combine c) →
    (Token.resolve token).negated = false →
    (compile (.array (.string token :: operands))).outcome = .ok p →
      ∃ parts : List Program,
        List.Forall₂ (fun v part => (compile v).outcome = .ok part) operands parts ∧
          p.table = parts.flatMap Program.table ∧
          (operands ≠ [] → p.root = .combineAll c (Program.rootsFrom 0 parts))

end Compilation

/-- What placing does to the tests and the slots of predicates. Nothing is lost of a
predicate that fits. -/
structure Predicate.Placing (place : Predicate → Predicate) (fits : Predicate → Bool) :
    Prop where
  tests_sublist : ∀ p, (place p).tests.Sublist p.tests
  tests_eq : ∀ p, fits p = true → (place p).tests = p.tests
  shift : ∀ p n, place (p.shift n) = (place p).shift n
  fits_shift : ∀ p n, fits (p.shift n) = fits p
  combineAll : ∀ c ps, place (.combineAll c ps) = .combineAll c (ps.map place)
  fits_combineAll : ∀ c ps, fits (.combineAll c ps) = ps.all fits
  hoistsTo : ∀ options table lossy v p, (lossy = false → fits p = true) →
    Expression.HoistsTo options table lossy v p →
      Expression.HoistsTo options table lossy v (place p)

theorem Predicate.placing_id : Placing id fun _ => true where
  tests_sublist p := List.Sublist.refl _
  tests_eq p _ := rfl
  shift p n := rfl
  fits_shift p n := rfl
  combineAll c ps := by rw [List.map_id, id]
  fits_combineAll c ps := by simp
  hoistsTo options table lossy v p _ h := h

namespace Layout

theorem images_eq_map (layout : Layout) (ps : List Predicate) :
    layout.images ps = ps.map fun p => .orNever (layout.image? p) := by
  induction ps with
  | nil => rfl
  | cons p ps ih => rw [images, List.map_cons, ih]

theorem fitsAll_eq_all (layout : Layout) (ps : List Predicate) :
    layout.fitsAll ps = ps.all layout.fits := by
  induction ps with
  | nil => rfl
  | cons p ps ih => rw [fitsAll, List.all_cons, ih]

theorem placing (layout : Layout) :
    Predicate.Placing (fun p => .orNever (layout.image? p)) layout.fits where
  tests_sublist := tests_image_sublist
  tests_eq := tests_image
  shift p n := by rw [image?_shift, Predicate.orNever_map_shift]
  fits_shift := fits_shift
  combineAll c ps := by rw [orNever_image?_combineAll, images_eq_map]
  fits_combineAll c ps := by rw [fits_combineAll, fitsAll_eq_all]
  hoistsTo _ _ _ v _ hlossy h := Expression.hoistsTo_image layout v hlossy h

end Layout

namespace Query

def programPlaced (place : Predicate → Predicate) (q : Query) : Program :=
  ⟨place (q.predicate 0), q.hoisted⟩

def IsIntact (fits : Predicate → Bool) (q : Query) : Prop :=
  q.isDegraded = false ∧ fits (q.predicate 0) = true

variable {place : Predicate → Predicate} {fits : Predicate → Bool}

theorem slots_programPlaced_sublist (hplace : Predicate.Placing place fits) (q : Query) :
    (q.programPlaced place).root.slots.Sublist (List.range q.hoisted.length) := by
  rw [List.range_eq_range']
  exact ((hplace.tests_sublist _).filterMap _).trans (q.slots_predicate_sublist 0)

theorem slots_programPlaced (hplace : Predicate.Placing place fits) {q : Query}
    (h : q.IsIntact fits) :
    (q.programPlaced place).root.slots = List.range q.hoisted.length := by
  have hslots : (place (q.predicate 0)).slots = (q.predicate 0).slots := by
    rw [Predicate.slots, hplace.tests_eq _ h.2, Predicate.slots]
  rw [List.range_eq_range', ← q.slots_predicate 0 h.1]
  exact hslots

/-- The children of a combinator are placed as on their own, behind the literals in front
of them. -/
theorem map_place_predicates (hplace : Predicate.Placing place fits) (qs : List Query)
    (slot : Slot) :
    (predicates slot qs).map place = Program.rootsFrom slot (qs.map (programPlaced place)) := by
  induction qs generalizing slot with
  | nil => rfl
  | cons q qs ih =>
      have hshift : q.predicate slot = (q.predicate 0).shift slot := by
        rw [← q.predicate_add, Nat.zero_add]
      rw [predicates, List.map_cons, List.map_cons, Program.rootsFrom, ih, hshift, hplace.shift]
      rfl

theorem flatMap_table_programPlaced (place : Predicate → Predicate) (qs : List Query) :
    (qs.map (programPlaced place)).flatMap Program.table = hoistedAll qs := by
  induction qs with
  | nil => rfl
  | cons q qs ih =>
      rw [List.map_cons, List.flatMap_cons, ih, hoistedAll]
      rfl

theorem forall_isIntact (hplace : Predicate.Placing place fits) {qs : List Query} {slot : Slot}
    (hvalid : anyDegraded qs = false) (hfits : (predicates slot qs).all fits = true) :
    ∀ q ∈ qs, q.IsIntact fits := by
  induction qs generalizing slot with
  | nil =>
      intro q hq
      cases hq
  | cons q qs ih =>
      rw [anyDegraded, Bool.or_eq_false_iff] at hvalid
      rw [predicates, List.all_cons, Bool.and_eq_true] at hfits
      have hhead : fits (q.predicate 0) = true := by
        rw [← hplace.fits_shift _ slot, ← q.predicate_add, Nat.zero_add]
        exact hfits.1
      exact List.forall_mem_cons.2 ⟨⟨hvalid.1, hhead⟩, ih hvalid.2 hfits.2⟩

end Query

namespace Compilation

/-- A way to compile that comes to the placed program of the query, unless it is strict
and something is given up. If it warns of nothing, then nothing is given up. -/
structure Places (options : CompileOptions) (compile : Value → Compilation Program)
    (place : Predicate → Predicate) (fits : Predicate → Bool) : Prop where
  outcome_iff : ∀ expr p, (compile expr).outcome = .ok p ↔
    (options.strict = true → (Query.read options expr).IsIntact fits) ∧
      p = (Query.read options expr).programPlaced place
  intact_of_quiet : ∀ expr p, (compile expr).outcome = .ok p →
    (∀ event ∈ (compile expr).events, event.isWarning = false) →
      (Query.read options expr).IsIntact fits

variable {options : CompileOptions} {compile : Value → Compilation Program}
  {place : Predicate → Predicate} {fits : Predicate → Bool}

/-- A combinator at the root is made of its children as they compile on their own. -/
theorem Places.exists_parts (h : Places options compile place fits)
    (hplace : Predicate.Placing place fits) {token : String} {c : Combinator}
    {operands : List Value} {p : Program}
    (hregistry : options.registry.get? (Token.resolve token).name = none)
    (hop : Operator.ofToken? (Token.resolve token).name = some (.combine c))
    (hmark : (Token.resolve token).negated = false) (hne : operands ≠ [])
    (hp : (compile (.array (.string token :: operands))).outcome = .ok p) :
    ∃ parts : List Program,
      List.Forall₂ (fun v part => (compile v).outcome = .ok part) operands parts ∧
        p.table = parts.flatMap Program.table ∧
        p.root = .combineAll c (Program.rootsFrom 0 parts) := by
  have hread : Query.read options (.array (.string token :: operands)) =
      .combine c (operands.map (Query.read options)) := by
    rw [Expression.read_combine hregistry hop hne, hmark, Query.readAll_eq_map]
    rfl
  obtain ⟨hstrict, rfl⟩ := (h.outcome_iff _ _).1 hp
  rw [hread] at hstrict ⊢
  refine ⟨(operands.map (Query.read options)).map (Query.programPlaced place), ?_, ?_, ?_⟩
  · rw [List.map_map, List.forall₂_map_right_iff, List.forall₂_same]
    intro v hv
    refine (h.outcome_iff _ _).2 ⟨fun hs => ?_, rfl⟩
    obtain ⟨hvalid, hfits⟩ := hstrict hs
    rw [Query.predicate, hplace.fits_combineAll] at hfits
    exact Query.forall_isIntact hplace hvalid hfits _ (List.mem_map_of_mem hv)
  · exact (Query.flatMap_table_programPlaced place _).symm
  · rw [← Query.map_place_predicates hplace, ← hplace.combineAll]
    rfl

/-- What an expression compiles to has the tests of the expression, all of them if nothing
is given up. -/
theorem Places.hoistsTo (h : Places options compile place fits)
    (hplace : Predicate.Placing place fits) {expr : Value} {p : Program}
    (hp : (compile expr).outcome = .ok p) {lossy : Bool}
    (hlossy : lossy = false → (Query.read options expr).IsIntact fits) :
    Expression.HoistsTo options p.table lossy expr p.root := by
  obtain ⟨-, rfl⟩ := (h.outcome_iff _ _).1 hp
  apply hplace.hoistsTo _ _ _ _ _ fun hl => (hlossy hl).2
  exact Expression.hoistsTo_read expr 0 (fun hl => (hlossy hl).1) (HoistTable.holds_self _)

theorem Places.everyPath {P : Path → Prop} (h : Places options compile place fits)
    {expr : Value} {p : Program}
    (hread : ∀ raw path, Path.read? options.chain raw = some path → P path)
    (hplace : ∀ p : Predicate, p.everyPath P → (place p).everyPath P)
    (hp : (compile expr).outcome = .ok p) : p.root.everyPath P := by
  obtain ⟨-, rfl⟩ := (h.outcome_iff _ _).1 hp
  exact hplace _ (Query.everyPath_predicate _ _ (Query.everyPath_read hread expr))

theorem Places.table_eq_nil (h : Places options compile place fits) {token : String}
    {c : Combinator} {p : Program}
    (hregistry : options.registry.get? (Token.resolve token).name = none)
    (hop : Operator.ofToken? (Token.resolve token).name = some (.combine c))
    (hp : (compile (.array [.string token])).outcome = .ok p) : p.table = [] := by
  obtain ⟨-, rfl⟩ := (h.outcome_iff _ _).1 hp
  rw [Query.programPlaced, Expression.hoisted_read_node, Expression.plain_combine hregistry hop]
  rfl

theorem Places.numbersLiterals (h : Places options compile place fits)
    (hplace : Predicate.Placing place fits) : NumbersLiterals options compile where
  ascending expr p hp := by
    obtain ⟨-, rfl⟩ := (h.outcome_iff _ _).1 hp
    exact List.pairwise_lt_range.sublist (Query.slots_programPlaced_sublist hplace _)
  inTable expr p hp slot hslot := by
    obtain ⟨-, rfl⟩ := (h.outcome_iff _ _).1 hp
    exact List.mem_range.1 ((Query.slots_programPlaced_sublist hplace _).subset hslot)
  own expr p hp := h.hoistsTo hplace hp fun hl => nomatch hl
  found expr p hp t ht := by
    have hoists : Expression.HoistsTo options p.table true expr p.root :=
      h.hoistsTo hplace hp fun hl => nomatch hl
    exact Expression.isSome_fetch?_of_hoistsTo expr hoists ht
  exact_of_quiet expr p hp hquiet := by
    have hintact := h.intact_of_quiet expr p hp hquiet
    refine ⟨h.hoistsTo hplace hp fun _ => hintact, ?_⟩
    obtain ⟨-, rfl⟩ := (h.outcome_iff _ _).1 hp
    exact Query.slots_programPlaced hplace hintact
  combine token c operands p hregistry hop hmark hp := by
    cases operands with
    | nil =>
        refine ⟨[], .nil, h.table_eq_nil hregistry hop hp, fun hne => absurd rfl hne⟩
    | cons v vs =>
        obtain ⟨parts, hparts, htable, hroot⟩ :=
          h.exists_parts hplace hregistry hop hmark (List.cons_ne_nil v vs) hp
        exact ⟨parts, hparts, htable, fun _ => hroot⟩

end Compilation

namespace Program

theorem isDegraded_of_outcome_compile {options : CompileOptions} {expr : Value} {p : Program}
    (hs : options.strict = true) (h : (compile options expr).outcome = .ok p) :
    (Query.read options expr).isDegraded = false := by
  cases hvalid : (Query.read options expr).isDegraded with
  | false => rfl
  | true =>
      obtain ⟨e, d, hd⟩ := Query.compile_strict_of_isDegraded _ 0 hvalid
      rw [compile, Query.compileExpression, hs, Assembly.bind_apply_error hd] at h
      cases h

theorem isDegraded_of_quiet {options : CompileOptions} {expr : Value} {p : Program}
    (h : (compile options expr).outcome = .ok p)
    (hquiet : ∀ event ∈ (compile options expr).events, event.isWarning = false) :
    (Query.read options expr).isDegraded = false := by
  obtain ⟨chain, strict, registry⟩ := options
  cases strict with
  | true => exact isDegraded_of_outcome_compile rfl h
  | false =>
      have hok : ∃ root,
          (Query.compileExpression ⟨chain, false, registry⟩ expr 0).1 = .ok root := by
        rw [Query.compileExpression_apply _ _ _ (by simp)]
        exact ⟨_, rfl⟩
      obtain ⟨q, hq⟩ := (Compilation.strictOf_of_lockstep
        (Query.lockstep_compileExpression chain registry expr) hok Program.mk).ok_iff.2 hquiet
      rw [← Query.read_strict]
      exact isDegraded_of_outcome_compile rfl hq

theorem places_compile (options : CompileOptions) :
    Compilation.Places options (compile options) id fun _ => true where
  outcome_iff expr p := by
    constructor
    · intro h
      have hvalid := fun hs => isDegraded_of_outcome_compile hs h
      rw [outcome_compile options expr hvalid] at h
      exact ⟨fun hs => ⟨hvalid hs, rfl⟩, (Except.ok.inj h).symm⟩
    · rintro ⟨hintact, rfl⟩
      exact outcome_compile options expr fun hs => (hintact hs).1
  intact_of_quiet expr p h hquiet := ⟨isDegraded_of_quiet h hquiet, rfl⟩

end Program

namespace ColumnProgram

variable {names : Option (List String)} {layout : Layout}

theorem isIntact_of_outcome_compile (hl : Layout.read names = .ok layout)
    {options : CompileOptions} {expr : Value} {p : ColumnProgram} (hs : options.strict = true)
    (h : (compile names options expr).outcome = .ok p) :
    (Query.read options expr).IsIntact layout.fits := by
  obtain ⟨other, hother, hvalid, hfits⟩ := of_outcome_compile_strict hs h
  rw [hl] at hother
  cases hother
  exact ⟨hvalid, hfits⟩

/-- A compilation for columns that warns of nothing gives up nothing. -/
theorem isIntact_of_quiet (hl : Layout.read names = .ok layout) {options : CompileOptions}
    {expr : Value} {p : ColumnProgram} (h : (compile names options expr).outcome = .ok p)
    (hquiet : ∀ event ∈ (compile names options expr).events, event.isWarning = false) :
    (Query.read options expr).IsIntact layout.fits := by
  obtain ⟨chain, strict, registry⟩ := options
  cases strict with
  | true => exact isIntact_of_outcome_compile hl rfl h
  | false =>
      obtain ⟨d, hd, -⟩ := compileIn_apply layout ((names.map List.length).getD 0)
        ⟨chain, false, registry⟩ expr (by simp)
      rw [compile, hl] at hquiet
      obtain ⟨q, hq⟩ := (Compilation.strictOf_of_lockstep
        (lockstep_compileIn layout _ chain registry expr) ⟨_, congrArg Prod.fst hd⟩
        fun root table => ColumnProgram.mk ⟨root, table⟩).ok_iff.2 hquiet
      have hstrict : (compile names ⟨chain, true, registry⟩ expr).outcome = .ok q := by
        rw [compile, hl]
        exact hq
      have hintact := isIntact_of_outcome_compile hl rfl hstrict
      rw [Query.read_strict] at hintact
      exact hintact

theorem places_compile (hl : Layout.read names = .ok layout) (options : CompileOptions) :
    Compilation.Places options
      (fun expr => (compile names options expr).map ColumnProgram.program)
      (fun p => .orNever (layout.image? p)) layout.fits where
  outcome_iff expr p := by
    constructor
    · intro h
      cases hp : (compile names options expr).outcome with
      | error e =>
          rw [Compilation.map, hp] at h
          cases h
      | ok q =>
          have hintact := fun hs => isIntact_of_outcome_compile hl hs hp
          rw [Compilation.map, outcome_compile hl options expr hintact] at h
          exact ⟨hintact, (Except.ok.inj h).symm⟩
    · rintro ⟨hintact, rfl⟩
      rw [Compilation.map, outcome_compile hl options expr hintact]
      rfl
  intact_of_quiet expr p h hquiet := by
    cases hp : (compile names options expr).outcome with
    | error e =>
        rw [Compilation.map, hp] at h
        cases h
    | ok q => exact isIntact_of_quiet hl hp hquiet

theorem exists_layout_of_compile {options : CompileOptions} {expr : Value} {p : ColumnProgram}
    (hp : (compile names options expr).outcome = .ok p) :
    ∃ layout, Layout.read names = .ok layout ∧
      ((compile names options expr).map program).outcome = .ok p.program := by
  cases hl : Layout.read names with
  | error e =>
      rw [compile, hl] at hp
      cases hp
  | ok layout =>
      refine ⟨layout, rfl, ?_⟩
      rw [Compilation.map, hp]
      rfl

end ColumnProgram

namespace Compilation

/-- Compilation numbers the literals of an expression from left to right, over records and
over columns with valid names or without names. -/
theorem numbersLiterals_compile (options : CompileOptions) (names : Option (List String)) :
    NumbersLiterals options (Program.compile options) ∧
      ∀ layout, Layout.read names = .ok layout →
        NumbersLiterals options
          fun expr => (ColumnProgram.compile names options expr).map ColumnProgram.program :=
  ⟨(Program.places_compile options).numbersLiterals Predicate.placing_id,
    fun layout hl =>
      (ColumnProgram.places_compile hl options).numbersLiterals layout.placing⟩

/-- A negation that is given up and a test without a column leave their sets in the table,
and the last test refers to the one behind them. -/
theorem numbersLiterals_compile_orphans :
    ∃ layout, Layout.read (some [".a"]) = .ok layout ∧
      NumbersLiterals ⟨false, false, []⟩
        (fun expr => (ColumnProgram.compile (some [".a"]) ⟨false, false, []⟩ expr).map
          ColumnProgram.program) ∧
      ∃ p, (ColumnProgram.compile (some [".a"]) ⟨false, false, []⟩ (.array [.string "||",
          .array [.string "!&&", .array [.string "in", .string ".a", .array [.integer 1]],
            .array [.string "unknown"]],
          .array [.string "in", .string ".b", .array [.integer 2]],
          .array [.string "in", .string ".a", .array [.integer 3]]])).outcome = .ok p ∧
        p.program.root.slots = [2] ∧
        p.program.table.length = 3 ∧
        p.program.table.members? 2 = some (.ofItems [.integer 3]) := by
  obtain ⟨layout, hl⟩ : ∃ layout, Layout.read (some [".a"]) = .ok layout := ⟨_, rfl⟩
  have hnumbers := (numbersLiterals_compile ⟨false, false, []⟩ (some [".a"])).2 layout hl
  exact ⟨layout, hl, hnumbers, _, rfl, rfl, rfl, rfl⟩

end Compilation

end RecordFilter
