import Mathlib.Data.Fin.VecNotation
import RecordFilter.Proofs.Layout.Image
import RecordFilter.Proofs.Layout.Renumbering

/-!
# The order of columns

Which number a column has is of no account. If the names and the columns of a table are
put into another order alike, an expression compiles to the same program with its columns
renumbered: it gives up the same nodes with the same reports, and it answers alike in every
row (`compile_comp`). What is asked of the names is that no two of them have the same keys.
The columns are then bound by the longest name, and in no order does another one win.

Names and columns are given by number, as functions, so that one permutation moves both.
-/

namespace RecordFilter

theorem Layout.mapM_readName_ofFn_eq_ok_iff {n : Nat} {names : Fin n → String}
    {columns : List (List Step)} :
    (List.ofFn names).mapM readName = .ok columns ↔ ∃ steps : Fin n → List Step,
      columns = List.ofFn steps ∧ ∀ k, readName (names k) = .ok (steps k) := by
  induction n generalizing columns with
  | zero =>
      rw [List.ofFn_zero, List.mapM_nil]
      constructor
      · intro h
        cases h
        exact ⟨Fin.elim0, rfl, fun k => k.elim0⟩
      · rintro ⟨steps, rfl, -⟩
        rfl
  | succ n ih =>
      rw [List.ofFn_succ, mapM_readName_cons_eq_ok_iff]
      constructor
      · rintro ⟨first, others, hfirst, hothers, rfl⟩
        obtain ⟨steps, rfl, hsteps⟩ := ih.1 hothers
        refine ⟨Fin.cons first steps, ?_, Fin.cases hfirst hsteps⟩
        rw [List.ofFn_succ]
        rfl
      · rintro ⟨steps, rfl, hsteps⟩
        have hothers := ih.2 ⟨fun k => steps k.succ, rfl, fun k => hsteps k.succ⟩
        exact ⟨_, _, hsteps 0, hothers, List.ofFn_succ⟩

theorem Layout.read_ofFn_eq_ok_iff {n : Nat} {names : Fin n → String} {layout : Layout} :
    read (some (List.ofFn names)) = .ok layout ↔ ∃ steps : Fin n → List Step,
      layout = ⟨some (List.ofFn steps)⟩ ∧ ∀ k, readName (names k) = .ok (steps k) := by
  rw [read]
  constructor
  · intro h
    cases hcolumns : (List.ofFn names).mapM readName with
    | error e =>
        rw [hcolumns] at h
        cases h
    | ok columns =>
        rw [hcolumns] at h
        cases h
        obtain ⟨steps, rfl, hsteps⟩ := mapM_readName_ofFn_eq_ok_iff.1 hcolumns
        exact ⟨steps, rfl, hsteps⟩
  · rintro ⟨steps, rfl, hsteps⟩
    rw [mapM_readName_ofFn_eq_ok_iff.2 ⟨steps, rfl, hsteps⟩]
    rfl

/-- The predicate of an expression has no columns before it is placed. -/
theorem Query.parallel_compileExpression (chain : Bool) (registry : Registry) (expr : Value) :
    Assembly.Parallel .same (fun a b => b = a ∧ a.everyPath fun path => ∀ c, path.root ≠ .column c)
      (compileExpression ⟨chain, false, registry⟩ expr)
      (compileExpression ⟨chain, false, registry⟩ expr) := by
  rw [Assembly.parallel_same_iff]
  intro slot
  have happly := compileExpression_apply ⟨chain, false, registry⟩ expr slot nofun
  exact .inr ⟨_, _, _, happly, happly, rfl, no_column_predicate_read _ expr slot⟩

namespace ColumnProgram

variable {n : Nat}

theorem parallel_compileIn {names : Fin n → List Step}
    (hkeys : Function.Injective fun k => (names k).map Step.key) (σ : Equiv.Perm (Fin n))
    (named : Nat) (chain : Bool) (registry : Registry) (expr : Value) :
    Assembly.Parallel .same (fun a b => b = a.renumber (Layout.numberIn σ))
      (compileIn ⟨some (List.ofFn names)⟩ named ⟨chain, false, registry⟩ expr)
      (compileIn ⟨some (List.ofFn (names ∘ σ))⟩ named ⟨chain, false, registry⟩ expr) := by
  rw [compileIn, compileIn]
  apply (Query.parallel_compileExpression chain registry expr).bind
  rintro _ root ⟨rfl, hroots⟩
  apply ((Layout.parallel_place σ hkeys false root hroots).rescue rfl false).bind
  rintro root _ rfl
  apply (Assembly.parallel_self (fun _ => rfl) (Assembly.emit (.placed named))).bind
  rintro _ _ rfl
  exact Assembly.parallel_pure rfl

/-- Names of columns with different keys, and the columns themselves, may be put into any
order. Paths are bound by the longest name, which leaves the steps behind it for the cell;
the program is the same but for the numbers of columns, what is reported is the same, and
so are the answers, but for these numbers in faults. -/
theorem compile_comp {names : Fin n → String} {layout : Layout}
    (hl : Layout.read (some (List.ofFn names)) = .ok layout)
    (hkeys : Function.Injective fun k => Layout.keysOf (names k))
    (σ : Equiv.Perm (Fin n)) (chain : Bool) (registry : Registry) (expr : Value) :
    ∃ (keys : Fin n → List Key) (q : Program) (p p' : ColumnProgram) (events : List Event),
      (∀ k, Layout.keysOf (names k) = .ok (keys k)) ∧
      layout.BindsLongest keys ∧
      (Program.compile ⟨chain, false, registry⟩ expr).outcome = .ok q ∧
      compile (some (List.ofFn names)) ⟨chain, false, registry⟩ expr = ⟨.ok p, events⟩ ∧
      compile (some (List.ofFn (names ∘ σ))) ⟨chain, false, registry⟩ expr =
        ⟨.ok p', events⟩ ∧
      p.program = ⟨.orNever (layout.image? q.root), q.table⟩ ∧
      p'.program = ⟨p.program.root.renumber (Layout.numberIn σ), q.table⟩ ∧
      ∀ (columns : Fin n → List Value) (row : Position),
        EvalError.AlikeUpTo .withoutColumn (p'.answer (List.ofFn (columns ∘ σ)) row)
          (p.answer (List.ofFn columns) row) := by
  obtain ⟨steps, rfl, hsteps⟩ := Layout.read_ofFn_eq_ok_iff.1 hl
  have hl' : Layout.read (some (List.ofFn (names ∘ σ))) =
      .ok ⟨some (List.ofFn (steps ∘ σ))⟩ :=
    Layout.read_ofFn_eq_ok_iff.2 ⟨steps ∘ σ, rfl, fun k => hsteps (σ k)⟩
  have hkeysOf : ∀ k, Layout.keysOf (names k) = .ok ((steps k).map Step.key) := by
    intro k
    rw [Layout.keysOf, hsteps]
    rfl
  have hinjective : Function.Injective fun k => (steps k).map Step.key := by
    intro k l h
    apply hkeys
    simp only [hkeysOf]
    exact congrArg Except.ok h
  obtain ⟨d, hd, hhoisted⟩ := compileIn_apply ⟨some (List.ofFn steps)⟩ n
    ⟨chain, false, registry⟩ expr nofun
  rcases Assembly.parallel_same_iff.1 (parallel_compileIn hinjective σ n chain registry expr) 0 with
    ⟨e, d', hx, -⟩ | ⟨root, _, d', hx, hy, rfl⟩
  · rw [hd] at hx
    cases hx
  · rw [hd] at hx
    cases hx
    refine ⟨_, _, ⟨⟨_, d.hoisted⟩⟩, ⟨⟨_, d.hoisted⟩⟩, d.events, hkeysOf,
      Layout.bindsLongest hinjective, Program.outcome_compile_lenient chain registry expr, ?_,
      ?_, congrArg (Program.mk _) hhoisted,
      congrArg (Program.mk _) hhoisted, fun columns row => ?_⟩
    · rw [compile, hl]
      simp only [Option.map_some, Option.getD_some, List.length_ofFn, hd]
      rfl
    · rw [compile, hl']
      simp only [Option.map_some, Option.getD_some, List.length_ofFn, hy]
      rfl
    · exact Predicate.eval_renumber (Layout.renumbered_ofRow σ columns row) d.hoisted _

/-- One name goes on where the other one ends, and the longer one is bound in either
order. -/
theorem compile_comp_nested :
    ∃ p p',
      (compile (some (List.ofFn ![".geo", ".geo.lat"])) ⟨false, false, []⟩
          (.array [.string ">", .string ".geo?.lat.deg", .integer 1])).outcome = .ok p ∧
      (compile (some (List.ofFn (![".geo", ".geo.lat"] ∘ Equiv.swap 0 1))) ⟨false, false, []⟩
          (.array [.string ">", .string ".geo?.lat.deg", .integer 1])).outcome = .ok p' ∧
      p.program.root = .test ⟨.column 1, [⟨.field "deg", false⟩]⟩ (.compare .gt (.integer 1)) ∧
      p'.program.root = .test ⟨.column 0, [⟨.field "deg", false⟩]⟩ (.compare .gt (.integer 1)) ∧
      ∀ (columns : Fin 2 → List Value) (row : Position),
        EvalError.AlikeUpTo .withoutColumn
          (p'.answer (List.ofFn (columns ∘ Equiv.swap 0 1)) row)
          (p.answer (List.ofFn columns) row) := by
  have hlength : ∀ k l : Fin 2,
      ((Layout.keysOf (![".geo", ".geo.lat"] k)).map List.length).toOption =
        ((Layout.keysOf (![".geo", ".geo.lat"] l)).map List.length).toOption → k = l := by
    decide
  obtain ⟨keys, q, p, p', events, -, -, hq, hp, hp', hroot, hroot', halike⟩ :=
    compile_comp (rfl : Layout.read (some (List.ofFn ![".geo", ".geo.lat"])) =
        .ok ⟨some [[⟨.field "geo", false⟩], [⟨.field "geo", false⟩, ⟨.field "lat", false⟩]]⟩)
      (fun k l h => hlength k l (congrArg (fun keys => (keys.map List.length).toOption) h))
      (Equiv.swap 0 1) false [] (.array [.string ">", .string ".geo?.lat.deg", .integer 1])
  have hq' : (Program.compile ⟨false, false, []⟩
      (.array [.string ">", .string ".geo?.lat.deg", .integer 1])).outcome =
        .ok ⟨.test ⟨.record, [⟨.field "geo", false⟩, ⟨.field "lat", true⟩,
          ⟨.field "deg", false⟩]⟩ (.compare .gt (.integer 1)), []⟩ := rfl
  rw [hq'] at hq
  cases hq
  refine ⟨p, p', congrArg Compilation.outcome hp, congrArg Compilation.outcome hp', ?_, ?_,
    halike⟩
  · rw [hroot]
    rfl
  · rw [hroot', hroot]
    rfl

end ColumnProgram

end RecordFilter
