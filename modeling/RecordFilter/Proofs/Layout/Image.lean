import RecordFilter.Program.Columns
import RecordFilter.Proofs.Query.Compiled

/-!
# The image of a predicate in a layout

Placing a predicate appends no literals, so what it comes to can be said without
slots and drafts. `image?` is the predicate placed leniently: where a node cannot
be placed, the nearest child of a combinator around it never matches, and there is
no image if nothing is around it. `fits` tells whether all of a predicate can be
placed, the bodies of quantifiers aside, which are about the items of a cell.

`place_apply` ties the two to `Layout.place`: lenient placing always comes to the
image, strict placing does if everything fits, and otherwise stops
(`place_strict_of_not_fits`). From this the outcome of compiling for columns is
that of compiling for records, with the image in place of the predicate.
-/

namespace RecordFilter

def Predicate.orNever : Except CompileError Predicate → Predicate
  | .ok p => p
  | .error _ => .never

namespace Layout

def fitsPath (layout : Layout) (path : Path) : Bool := (layout.placePath path).toOption.isSome

mutual

/-- Whether everything outside the bodies of quantifiers has a place in the
layout. -/
def fits (layout : Layout) : Predicate → Bool
  | .never => true
  | .combine _ children => fitsAll layout children
  | .not body => fits layout body
  | .quantify path _ _ => layout.fitsPath path
  | .test path _ => layout.fitsPath path
  | .custom _ _ _ => false

def fitsAll (layout : Layout) : List Predicate → Bool
  | [] => true
  | p :: ps => fits layout p && fitsAll layout ps

end

mutual

/-- The predicate in the layout, with children of combinators given up where they
cannot be placed. -/
def image? (layout : Layout) : Predicate → Except CompileError Predicate
  | .never => .ok .never
  | .combine c children => .ok (.combine c (images layout children))
  | .not body => (image? layout body).map .not
  | .quantify path q body => (layout.placePath path).map fun path => .quantify path q body
  | .test path t => (layout.placePath path).map fun path => .test path t
  | .custom name _ _ => .error (.unsupported name "custom operators need whole records")

def images (layout : Layout) : List Predicate → List Predicate
  | [] => []
  | p :: ps => .orNever (image? layout p) :: images layout ps

end

theorem placed_apply (layout : Layout) (path : Path) (slot : Slot) :
    layout.placed path slot = (layout.placePath path, .empty) := by
  rw [placed]
  cases layout.placePath path with
  | error e => rfl
  | ok path => rfl

theorem exists_of_fitsPath {layout : Layout} {path : Path} (h : layout.fitsPath path = true) :
    ∃ path', layout.placePath path = .ok path' := by
  rw [fitsPath] at h
  cases hp : layout.placePath path with
  | error e =>
      rw [hp] at h
      cases h
  | ok path' => exact ⟨path', rfl⟩

theorem exists_of_not_fitsPath {layout : Layout} {path : Path}
    (h : layout.fitsPath path = false) : ∃ e, layout.placePath path = .error e := by
  rw [fitsPath] at h
  cases hp : layout.placePath path with
  | error e => exact ⟨e, rfl⟩
  | ok path' =>
      rw [hp] at h
      cases h

theorem exists_image_of_fits {layout : Layout} {p : Predicate} (h : layout.fits p = true) :
    ∃ p', layout.image? p = .ok p' := by
  match p with
  | .never => exact ⟨_, rfl⟩
  | .combine c children => exact ⟨_, rfl⟩
  | .not body =>
      obtain ⟨body', hbody⟩ := exists_image_of_fits (p := body) h
      exact ⟨.not body', by rw [image?, hbody, Except.map]⟩
  | .quantify path q body =>
      obtain ⟨path', hpath⟩ := exists_of_fitsPath h
      exact ⟨.quantify path' q body, by rw [image?, hpath, Except.map]⟩
  | .test path t =>
      obtain ⟨path', hpath⟩ := exists_of_fitsPath h
      exact ⟨.test path' t, by rw [image?, hpath, Except.map]⟩
  | .custom name op config => cases h

/-- A computation that may be given up comes to something, unless it fails where
compilation is strict. -/
theorem rescue_apply {strict : Bool} {x : Assembly Predicate} {slot : Slot}
    {r : Except CompileError Predicate} {d : Draft} (h : x slot = (r, d))
    (hstrict : strict = true → ∃ p, r = .ok p) :
    ∃ d', Assembly.rescue strict x slot = (.ok (.orNever r), d') ∧
      d'.hoisted = d.hoisted := by
  cases r with
  | ok p => exact ⟨d, by rw [Assembly.rescue, h, Predicate.orNever], rfl⟩
  | error e =>
      have hs : strict = false := by
        cases strict with
        | false => rfl
        | true =>
            obtain ⟨p, hp⟩ := hstrict rfl
            cases hp
      subst hs
      refine ⟨d ++ ⟨[], [.neverMatches e], 1⟩, ?_, ?_⟩
      · rw [Assembly.rescue, h]
        rfl
      · rw [Draft.append_eq, List.append_nil]

mutual

/-- Placing comes to the image and appends no literals, unless it is strict and
something does not fit. -/
theorem place_apply (layout : Layout) (strict : Bool) (p : Predicate) (slot : Slot)
    (h : strict = true → layout.fits p = true) :
    ∃ d, layout.place strict p slot = (layout.image? p, d) ∧ d.hoisted = [] := by
  match p with
  | .never => exact ⟨.empty, rfl, rfl⟩
  | .combine c children =>
      obtain ⟨d, hd, hnil⟩ := placeAll_apply layout strict children slot h
      exact ⟨d, by rw [place, Assembly.map_apply hd, image?, Except.map], hnil⟩
  | .not body =>
      obtain ⟨d, hd, hnil⟩ := place_apply layout strict body slot h
      exact ⟨d, by rw [place, Assembly.map_apply hd, image?], hnil⟩
  | .quantify path q body =>
      exact ⟨_, by rw [place, Assembly.map_apply (layout.placed_apply path slot), image?], rfl⟩
  | .test path t =>
      exact ⟨_, by rw [place, Assembly.map_apply (layout.placed_apply path slot), image?], rfl⟩
  | .custom name op config => exact ⟨.empty, rfl, rfl⟩

theorem placeAll_apply (layout : Layout) (strict : Bool) (ps : List Predicate) (slot : Slot)
    (h : strict = true → layout.fitsAll ps = true) :
    ∃ d, layout.placeAll strict ps slot = (.ok (layout.images ps), d) ∧ d.hoisted = [] := by
  match ps with
  | [] => exact ⟨.empty, rfl, rfl⟩
  | p :: ps =>
      have hparts : strict = true → layout.fits p = true ∧ layout.fitsAll ps = true := by
        intro hs
        simpa [fitsAll] using h hs
      obtain ⟨d, hd, hnil⟩ := place_apply layout strict p slot fun hs => (hparts hs).1
      obtain ⟨d', hd', hnil'⟩ := rescue_apply hd fun hs => exists_image_of_fits (hparts hs).1
      rw [hnil] at hnil'
      obtain ⟨f, hf, hfnil⟩ := placeAll_apply layout strict ps (slot + d'.hoisted.length)
        fun hs => (hparts hs).2
      refine ⟨d' ++ f, ?_, ?_⟩
      · rw [placeAll, Assembly.bind_apply_ok hd', Assembly.map_apply hf, images, Except.map]
      · rw [Draft.append_eq, hnil', hfnil, List.append_nil]

end

mutual

theorem place_strict_of_not_fits (layout : Layout) (p : Predicate) (slot : Slot)
    (h : layout.fits p = false) : ∃ e d, layout.place true p slot = (.error e, d) := by
  match p with
  | .never => cases h
  | .combine c children =>
      obtain ⟨e, d, hd⟩ := placeAll_strict_of_not_fitsAll layout children slot h
      exact ⟨e, d, by rw [place, Assembly.bind_apply_error hd]⟩
  | .not body =>
      obtain ⟨e, d, hd⟩ := place_strict_of_not_fits layout body slot h
      exact ⟨e, d, by rw [place, Assembly.bind_apply_error hd]⟩
  | .quantify path q body =>
      obtain ⟨e, he⟩ := exists_of_not_fitsPath h
      have hpath := layout.placed_apply path slot
      rw [he] at hpath
      exact ⟨e, _, by rw [place, Assembly.bind_apply_error hpath]⟩
  | .test path t =>
      obtain ⟨e, he⟩ := exists_of_not_fitsPath h
      have hpath := layout.placed_apply path slot
      rw [he] at hpath
      exact ⟨e, _, by rw [place, Assembly.bind_apply_error hpath]⟩
  | .custom name op config => exact ⟨_, _, rfl⟩

theorem placeAll_strict_of_not_fitsAll (layout : Layout) (ps : List Predicate) (slot : Slot)
    (h : layout.fitsAll ps = false) : ∃ e d, layout.placeAll true ps slot = (.error e, d) := by
  match ps with
  | [] => cases h
  | p :: ps =>
      cases hp : layout.fits p with
      | false =>
          obtain ⟨e, d, hd⟩ := place_strict_of_not_fits layout p slot hp
          obtain ⟨d', hd'⟩ := Assembly.rescue_apply_strict_error hd
          exact ⟨e, d', by rw [placeAll, Assembly.bind_apply_error hd']⟩
      | true =>
          have hps : layout.fitsAll ps = false := by simpa [fitsAll, hp] using h
          obtain ⟨d, hd, -⟩ := place_apply layout true p slot fun _ => hp
          obtain ⟨d', hd', -⟩ := rescue_apply hd fun _ => exists_image_of_fits hp
          obtain ⟨e, f, hf⟩ := placeAll_strict_of_not_fitsAll layout ps
            (slot + d'.hoisted.length) hps
          exact ⟨e, d' ++ f, by
            rw [placeAll, Assembly.bind_apply_ok hd', Assembly.bind_apply_error hf]⟩

end

end Layout

def Query.columnProgram (layout : Layout) (q : Query) : ColumnProgram :=
  ⟨⟨.orNever (layout.image? (q.predicate 0)), q.hoisted⟩⟩

namespace ColumnProgram

/-- Compiling for columns comes to the image and appends the literals of the query,
unless it is strict and a node is invalid or does not fit. -/
theorem compileIn_apply (layout : Layout) (named : Nat) (options : CompileOptions)
    (expr : Value)
    (h : options.strict = true → (Query.read options expr).isDegraded = false ∧
      layout.fits ((Query.read options expr).predicate 0) = true) :
    ∃ d, compileIn layout named options expr 0 =
        (.ok (.orNever (layout.image? ((Query.read options expr).predicate 0))), d) ∧
      d.hoisted = (Query.read options expr).hoisted := by
  obtain ⟨d, hd, hhoisted⟩ : ∃ d, Query.compileExpression options expr 0 =
      (.ok ((Query.read options expr).predicate 0), d) ∧
      d.hoisted = (Query.read options expr).hoisted := by
    refine ⟨_, Query.compileExpression_apply options expr 0 fun hs => (h hs).1, ?_⟩
    rw [Draft.append_eq, Query.hoisted_draft, List.append_nil]
  obtain ⟨e, he, henil⟩ := layout.place_apply options.strict
    ((Query.read options expr).predicate 0) (0 + d.hoisted.length) fun hs => (h hs).2
  obtain ⟨f, hf, hfnil⟩ := Layout.rescue_apply he fun hs =>
    Layout.exists_image_of_fits (h hs).2
  refine ⟨d ++ (f ++ ⟨[], [.placed named], 0⟩), ?_, ?_⟩
  · rw [compileIn, Assembly.bind_apply_ok hd, Assembly.bind_apply_ok hf]
    rfl
  · simp only [Draft.append_eq, hhoisted, hfnil, henil, List.append_nil]

theorem outcome_compile {names : Option (List String)} {layout : Layout}
    (hl : Layout.read names = .ok layout) (options : CompileOptions) (expr : Value)
    (h : options.strict = true → (Query.read options expr).isDegraded = false ∧
      layout.fits ((Query.read options expr).predicate 0) = true) :
    (compile names options expr).outcome =
      .ok ((Query.read options expr).columnProgram layout) := by
  obtain ⟨d, hd, hhoisted⟩ := compileIn_apply layout ((names.map List.length).getD 0) options
    expr h
  rw [compile, hl]
  simp only [hd, hhoisted]
  rfl

theorem compileIn_strict_of_isDegraded (layout : Layout) (named : Nat)
    {options : CompileOptions} {expr : Value} (hs : options.strict = true)
    (h : (Query.read options expr).isDegraded = true) :
    ∃ e d, compileIn layout named options expr 0 = (.error e, d) := by
  obtain ⟨e, d, hd⟩ := Query.compile_strict_of_isDegraded _ 0 h
  have hexpr : Query.compileExpression options expr 0 = (.error e, d) := by
    rw [Query.compileExpression, hs, Assembly.bind_apply_error hd]
  exact ⟨e, d, by rw [compileIn, Assembly.bind_apply_error hexpr]⟩

theorem compileIn_strict_of_not_fits (layout : Layout) (named : Nat)
    {options : CompileOptions} {expr : Value} (hs : options.strict = true)
    (hvalid : (Query.read options expr).isDegraded = false)
    (h : layout.fits ((Query.read options expr).predicate 0) = false) :
    ∃ e d, compileIn layout named options expr 0 = (.error e, d) := by
  obtain ⟨d, hd⟩ : ∃ d, Query.compileExpression options expr 0 =
      (.ok ((Query.read options expr).predicate 0), d) :=
    ⟨_, Query.compileExpression_apply options expr 0 fun _ => hvalid⟩
  obtain ⟨e, f, hf⟩ := layout.place_strict_of_not_fits _ (0 + d.hoisted.length) h
  obtain ⟨f', hf'⟩ := Assembly.rescue_apply_strict_error hf
  exact ⟨e, d ++ f', by
    rw [compileIn, Assembly.bind_apply_ok hd, hs, Assembly.bind_apply_error hf']⟩

/-- A strict compilation for columns succeeds only if every node can be compiled
and placed. -/
theorem of_outcome_compile_strict {names : Option (List String)} {options : CompileOptions}
    {expr : Value} {p : ColumnProgram} (hs : options.strict = true)
    (h : (compile names options expr).outcome = .ok p) :
    ∃ layout, Layout.read names = .ok layout ∧ (Query.read options expr).isDegraded = false ∧
      layout.fits ((Query.read options expr).predicate 0) = true := by
  cases hl : Layout.read names with
  | error e =>
      rw [compile, hl] at h
      cases h
  | ok layout =>
      rw [compile, hl] at h
      cases hvalid : (Query.read options expr).isDegraded with
      | true =>
          obtain ⟨e, d, hd⟩ := compileIn_strict_of_isDegraded layout
            ((names.map List.length).getD 0) hs hvalid
          simp only [hd] at h
          cases h
      | false =>
          cases hfits : layout.fits ((Query.read options expr).predicate 0) with
          | true => exact ⟨layout, rfl, rfl, hfits⟩
          | false =>
              obtain ⟨e, d, hd⟩ := compileIn_strict_of_not_fits layout
                ((names.map List.length).getD 0) hs hvalid hfits
              simp only [hd] at h
              cases h

end ColumnProgram

end RecordFilter
