import RecordFilter.Proofs.Expression.Meaning
import RecordFilter.Proofs.Layout.Relocation

/-!
# Filtering in stages

Positions that are filtered by several expressions one after the other are filtered by
their conjunction (`staged_conjunction`): each filter takes what the one before it has
left as its candidates. This holds of lenient programs, over records and over columns,
and it holds although a conjunction stops at its first child that is false or faults,
whereas each stage swallows its own faults. For a fault is no match, and so the
conjunction matches exactly if all of its children match (`isMatch_settle_all`).

A stage has its literals in a table of its own, and the conjunction has those of all
children in one. Over columns a stage that has no place is given up as a whole program,
and as a child of the conjunction.
-/

namespace RecordFilter

def Expression.conjunction (exprs : List Value) : Value := .array (.string "&&" :: exprs)

theorem Expression.read_conjunction (options : CompileOptions) {exprs : List Value}
    (hne : exprs ≠ []) :
    Query.read options (conjunction exprs) = .combine .all (exprs.map (Query.read options)) := by
  have hregistry : options.registry.get? (Token.resolve "&&").name = none := by
    rw [Registry.get?, if_neg (by decide)]
  have hop : Operator.ofToken? (Token.resolve "&&").name = some (.combine .all) := by decide
  rw [conjunction, read_combine hregistry hop hne, if_neg (by decide), Query.readAll_eq_map]

theorem isMatch_settle_all {α : Type} (ask : α → Except EvalError Bool) (as : List α) :
    isMatch (settle Combinator.all.neutral ask as) = as.all fun a => isMatch (ask a) := by
  induction as with
  | nil => rfl
  | cons a as ih =>
      rw [settle, List.all_cons, ← ih]
      cases ask a with
      | error e => rfl
      | ok answer => cases answer <;> rfl

/-- A filter of positions: by an expression, among some candidates or among all
positions. -/
abbrev PositionFilter := Value → Option (List Position) → Except CompileError (List Position)

namespace PositionFilter

/-- Filters by one expression after the other, each time among the positions that are
left. -/
def staged (run : PositionFilter) : Value → List Value → Option (List Position) →
    Except CompileError (List Position)
  | first, [], candidates => run first candidates
  | first, next :: rest, candidates => do run.staged next rest (some (← run first candidates))

variable {run : PositionFilter}

theorem staged_eq_error {e : CompileError}
    (hrun : ∀ expr candidates, run expr candidates = .error e) (first : Value)
    (rest : List Value) (candidates : Option (List Position)) :
    run.staged first rest candidates = .error e := by
  cases rest with
  | nil => rw [staged, hrun]
  | cons next rest =>
      rw [staged, hrun]
      rfl

/-- The filter takes no expression for an error, and of the candidates, in their order,
those that the expression accepts. -/
def FiltersBy (run : PositionFilter) (all : List Position) (accept : Value → Position → Bool) :
    Prop :=
  ∀ expr candidates, run expr candidates = .ok ((candidates.getD all).filter (accept expr))

variable {all : List Position} {accept : Value → Position → Bool}

/-- If an expression filters by what it accepts, then several in stages filter by what
all of them accept. -/
theorem FiltersBy.staged_eq_filter (hrun : run.FiltersBy all accept) (first : Value)
    (rest : List Value) (candidates : Option (List Position)) :
    run.staged first rest candidates = .ok ((candidates.getD all).filter fun position =>
      (first :: rest).all (accept · position)) := by
  induction rest generalizing first candidates with
  | nil =>
      rw [staged, hrun]
      simp only [List.all_cons, List.all_nil, Bool.and_true]
  | cons next rest ih =>
      have hstep : run.staged first (next :: rest) candidates =
          run.staged next rest (some ((candidates.getD all).filter (accept first))) := by
        rw [staged, hrun]
        rfl
      rw [hstep, ih, Option.getD_some, List.filter_filter]
      simp only [List.all_cons, Bool.and_comm, Bool.and_left_comm]

/-- If moreover a conjunction accepts what all of its children accept, then it filters
as its children in stages do. -/
theorem FiltersBy.staged_eq_run (hrun : run.FiltersBy all accept)
    (haccept : ∀ exprs position, exprs ≠ [] →
      accept (Expression.conjunction exprs) position = exprs.all (accept · position))
    (first : Value) (rest : List Value) (candidates : Option (List Position)) :
    run.staged first rest candidates = run (Expression.conjunction (first :: rest)) candidates := by
  have hfirst : accept (Expression.conjunction (first :: rest)) =
      fun position => (first :: rest).all (accept · position) :=
    funext fun position => haccept _ position (List.cons_ne_nil _ _)
  rw [hrun.staged_eq_filter, hrun, hfirst]

end PositionFilter

theorem all_and_left {α : Type} (b : Bool) (f : α → Bool) {as : List α} (hne : as ≠ []) :
    (as.all fun a => b && f a) = (b && as.all f) := by
  cases b with
  | true => simp only [Bool.true_and]
  | false =>
      obtain ⟨a, as, rfl⟩ := List.exists_cons_of_ne_nil hne
      rfl

namespace Program

def filterWith (options : CompileOptions) (records : List Value) : PositionFilter :=
  fun expr candidates => (compile options expr).outcome.map (·.filterPositions records candidates)

theorem filterWith_filtersBy (chain : Bool) (registry : Registry) (records : List Value) :
    (filterWith ⟨chain, false, registry⟩ records).FiltersBy
      (Source.positionsBelow records.length) fun expr position =>
        (Query.read ⟨chain, false, registry⟩ expr).program.acceptsAt (.ofList records)
          position := by
  intro expr candidates
  rw [filterWith, outcome_compile_lenient, Except.map, filterPositions, positionsIn_eq_filter,
    candidatesOf]

theorem accepts_read_conjunction (options : CompileOptions) {exprs : List Value} (hne : exprs ≠ [])
    (record : Value) (position : Position) :
    (Query.read options (Expression.conjunction exprs)).program.accepts record position =
      exprs.all fun expr => (Query.read options expr).program.accepts record position := by
  rw [Expression.read_conjunction options hne, accepts, Query.answer_program, Query.eval,
    Query.evalAll_eq_settle, isMatch_settle_all, List.all_map]
  apply congrArg (exprs.all ·)
  funext expr
  rw [accepts, Query.answer_program]
  rfl

theorem acceptsAt_read_conjunction (options : CompileOptions) {exprs : List Value}
    (hne : exprs ≠ []) (source : Source) (position : Position) :
    (Query.read options (Expression.conjunction exprs)).program.acceptsAt source position =
      exprs.all fun expr => (Query.read options expr).program.acceptsAt source position := by
  simp only [acceptsAt]
  cases source position with
  | none => exact (all_and_left false (fun _ => true) hne).symm
  | some record => exact accepts_read_conjunction options hne record position

theorem staged_filterWith (chain : Bool) (registry : Registry) (records : List Value)
    (first : Value) (rest : List Value) (candidates : Option (List Position)) :
    (filterWith ⟨chain, false, registry⟩ records).staged first rest candidates =
      filterWith ⟨chain, false, registry⟩ records (Expression.conjunction (first :: rest))
        candidates :=
  (filterWith_filtersBy chain registry records).staged_eq_run
    (fun _ position hne => acceptsAt_read_conjunction _ hne _ position) first rest candidates

/-- The order of the children makes no difference to what a conjunction accepts. -/
theorem map_accepts_compile_conjunction (chain : Bool) (registry : Registry)
    {exprs exprs' : List Value} (hne : exprs ≠ []) (h : exprs.Perm exprs') :
    (compile ⟨chain, false, registry⟩ (Expression.conjunction exprs)).outcome.map accepts =
      (compile ⟨chain, false, registry⟩ (Expression.conjunction exprs')).outcome.map accepts := by
  have hne' : exprs' ≠ [] := by
    rintro rfl
    exact hne h.eq_nil
  rw [outcome_compile_lenient, outcome_compile_lenient]
  apply congrArg Except.ok
  funext record position
  rw [accepts_read_conjunction _ hne, accepts_read_conjunction _ hne', h.all_eq]

end Program

namespace ColumnProgram

def filterWith (names : Option (List String)) (options : CompileOptions)
    (columns : List (List Value)) : PositionFilter :=
  fun expr candidates => (compile names options expr).outcome.map (·.filterRows columns candidates)

def acceptsAt (p : ColumnProgram) (columns : List (List Value)) (row : Position) : Bool :=
  row.toNat < rowCount columns && p.accepts columns row

variable {names : Option (List String)} {layout : Layout}

theorem filterWith_filtersBy (hl : Layout.read names = .ok layout) (chain : Bool)
    (registry : Registry) (columns : List (List Value)) :
    (filterWith names ⟨chain, false, registry⟩ columns).FiltersBy
      (Source.positionsBelow (rowCount columns)) fun expr row =>
        ((Query.read ⟨chain, false, registry⟩ expr).columnProgram layout).acceptsAt columns
          row := by
  intro expr candidates
  rw [filterWith, outcome_compile hl _ _ (by simp), Except.map, filterRows, List.filter_filter]
  apply congrArg Except.ok
  apply List.filter_congr
  intro row _
  exact Bool.and_comm _ _

theorem accepts_read_conjunction (layout : Layout) (options : CompileOptions)
    {exprs : List Value} (hne : exprs ≠ []) (columns : List (List Value)) (row : Position) :
    ((Query.read options (Expression.conjunction exprs)).columnProgram layout).accepts columns
        row =
      exprs.all fun expr =>
        ((Query.read options expr).columnProgram layout).accepts columns row := by
  rw [Expression.read_conjunction options hne, accepts, answer, Query.eval_columnProgram_combine,
    isMatch_settle_all, List.all_map]
  rfl

theorem acceptsAt_read_conjunction (layout : Layout) (options : CompileOptions)
    {exprs : List Value} (hne : exprs ≠ []) (columns : List (List Value)) (row : Position) :
    ((Query.read options (Expression.conjunction exprs)).columnProgram layout).acceptsAt columns
        row =
      exprs.all fun expr =>
        ((Query.read options expr).columnProgram layout).acceptsAt columns row := by
  simp only [acceptsAt]
  rw [all_and_left _ _ hne, accepts_read_conjunction layout options hne]

theorem staged_filterWith (names : Option (List String)) (chain : Bool) (registry : Registry)
    (columns : List (List Value)) (first : Value) (rest : List Value)
    (candidates : Option (List Position)) :
    (filterWith names ⟨chain, false, registry⟩ columns).staged first rest candidates =
      filterWith names ⟨chain, false, registry⟩ columns (Expression.conjunction (first :: rest))
        candidates := by
  cases hl : Layout.read names with
  | error e =>
      have hrun : ∀ expr candidates,
          filterWith names ⟨chain, false, registry⟩ columns expr candidates = .error e := by
        intro expr candidates
        rw [filterWith, compile, hl]
        rfl
      rw [PositionFilter.staged_eq_error hrun, hrun]
  | ok layout =>
      exact (filterWith_filtersBy hl chain registry columns).staged_eq_run
        (fun _ row hne => acceptsAt_read_conjunction layout _ hne columns row) first rest candidates

theorem map_accepts_compile_conjunction (names : Option (List String)) (chain : Bool)
    (registry : Registry) {exprs exprs' : List Value} (hne : exprs ≠ [])
    (h : exprs.Perm exprs') :
    (compile names ⟨chain, false, registry⟩ (Expression.conjunction exprs)).outcome.map accepts =
      (compile names ⟨chain, false, registry⟩ (Expression.conjunction exprs')).outcome.map
        accepts := by
  cases hl : Layout.read names with
  | error e =>
      rw [compile, compile, hl]
  | ok layout =>
      have hne' : exprs' ≠ [] := by
        rintro rfl
        exact hne h.eq_nil
      rw [outcome_compile hl _ _ (by simp), outcome_compile hl _ _ (by simp)]
      apply congrArg Except.ok
      funext columns row
      rw [accepts_read_conjunction layout _ hne, accepts_read_conjunction layout _ hne', h.all_eq]

end ColumnProgram

/-- Lenient filters in stages are the filter by the conjunction, which compiles if they
do, and which accepts the same whatever the order of its children. -/
theorem Expression.staged_conjunction (chain : Bool) (registry : Registry) (first : Value)
    (rest : List Value) :
    (∀ records candidates, ∃ hits,
      (Program.filterWith ⟨chain, false, registry⟩ records).staged first rest candidates =
          .ok hits ∧
        Program.filterWith ⟨chain, false, registry⟩ records (conjunction (first :: rest))
          candidates = .ok hits) ∧
      (∀ names columns candidates,
        (ColumnProgram.filterWith names ⟨chain, false, registry⟩ columns).staged first rest
            candidates =
          ColumnProgram.filterWith names ⟨chain, false, registry⟩ columns
            (conjunction (first :: rest)) candidates ∧
        ∀ layout, Layout.read names = .ok layout → ∃ hits,
          ColumnProgram.filterWith names ⟨chain, false, registry⟩ columns
            (conjunction (first :: rest)) candidates = .ok hits) ∧
      ∀ exprs, (first :: rest).Perm exprs →
        (Program.compile ⟨chain, false, registry⟩ (conjunction (first :: rest))).outcome.map
            Program.accepts =
          (Program.compile ⟨chain, false, registry⟩ (conjunction exprs)).outcome.map
            Program.accepts ∧
        ∀ names, (ColumnProgram.compile names ⟨chain, false, registry⟩
            (conjunction (first :: rest))).outcome.map ColumnProgram.accepts =
          (ColumnProgram.compile names ⟨chain, false, registry⟩
            (conjunction exprs)).outcome.map ColumnProgram.accepts := by
  have hne : first :: rest ≠ [] := List.cons_ne_nil _ _
  refine ⟨fun records candidates => ?_, fun names columns candidates => ⟨?_, fun layout hl => ?_⟩,
    fun exprs hperm => ⟨?_, fun names => ?_⟩⟩
  · rw [Program.staged_filterWith]
    exact ⟨_, Program.filterWith_filtersBy .., Program.filterWith_filtersBy ..⟩
  · exact ColumnProgram.staged_filterWith names chain registry columns first rest candidates
  · exact ⟨_, ColumnProgram.filterWith_filtersBy hl ..⟩
  · exact Program.map_accepts_compile_conjunction chain registry hne hperm
  · exact ColumnProgram.map_accepts_compile_conjunction names chain registry hne hperm

/-- A stage that faults in the first row and one that is right there: the conjunction
takes what the stages take, and the children may change places. -/
theorem Expression.staged_conjunction_faulting :
    ∃ layout, Layout.read (some [".a", ".b"]) = .ok layout ∧
      (ColumnProgram.filterWith (some [".a", ".b"]) ⟨false, false, []⟩
          [[.null, .object [("n", .integer 2)], .object [("n", .integer 5)]],
            [.integer 3, .integer 1, .integer 3]]).staged
          (.array [.string ">", .string ".a.n", .integer 1])
          [.array [.string "==", .string ".b", .integer 3]] (some [2, 0, 7, 2]) = .ok [2, 2] ∧
      (ColumnProgram.compile (some [".a", ".b"]) ⟨false, false, []⟩ (conjunction
          [.array [.string ">", .string ".a.n", .integer 1],
            .array [.string "==", .string ".b", .integer 3]])).outcome.map ColumnProgram.accepts =
        (ColumnProgram.compile (some [".a", ".b"]) ⟨false, false, []⟩ (conjunction
          [.array [.string "==", .string ".b", .integer 3],
            .array [.string ">", .string ".a.n", .integer 1]])).outcome.map
            ColumnProgram.accepts := by
  obtain ⟨layout, hl⟩ : ∃ layout, Layout.read (some [".a", ".b"]) = .ok layout := ⟨_, rfl⟩
  obtain ⟨-, hcolumns, hperm⟩ := staged_conjunction false []
    (.array [.string ">", .string ".a.n", .integer 1])
    [.array [.string "==", .string ".b", .integer 3]]
  obtain ⟨hstaged, hits⟩ := hcolumns (some [".a", ".b"])
    [[.null, .object [("n", .integer 2)], .object [("n", .integer 5)]],
      [.integer 3, .integer 1, .integer 3]] (some [2, 0, 7, 2])
  obtain ⟨taken, htaken⟩ := hits layout hl
  refine ⟨layout, hl, hstaged.trans (htaken.trans ?_),
    (hperm _ (List.Perm.swap _ _ [])).2 (some [".a", ".b"])⟩
  rw [← htaken]
  rfl

end RecordFilter
