import RecordFilter.Proofs.Json.Lines
import RecordFilter.Proofs.Path.RoundTrip
import RecordFilter.Proofs.Predicate.Leaves
import RecordFilter.Proofs.Program.Hoisting

/-!
# The lines of a listing

A program is listed with its predicate on the first line and one line for each literal in
its table (`Program.lines`). The texts on these lines come from the caller, and they are
written so that they stay on their lines: paths keep no characters that break a line, the
names of custom operators are identifiers, and all literals are written as compact JSON. Only
the source of a pattern is written as it is, so the listing has a further line end for each
one in the sources of its patterns, and none but these (`Compilation.listsLines_compile`).

That the predicate stays on its line is shown along the expression that it comes from
(`Expression.newlines_describe`): the names of custom operators are found there, and what a
path is made of survives its placing in a layout.
-/

namespace RecordFilter

/-- The text consists of the lines: each of them is ended once, and none before its end. -/
def IsLines (text : String) (lines : List String) : Prop :=
  text = String.join (lines.map (· ++ "\n")) ∧ ∀ line ∈ lines, newlines line = 0

theorem newlines_joinLines (lines : List String) :
    newlines (String.join (lines.map (· ++ "\n"))) =
      lines.length + (lines.map newlines).sum := by
  induction lines with
  | nil => rfl
  | cons line rest ih =>
      have hend : newlines "\n" = 1 := rfl
      rw [List.map_cons, String.join_cons, newlines_append, newlines_append, hend, ih,
        List.length_cons, List.map_cons, List.sum_cons]
      omega

def Path.StepsOnLine (path : Path) : Prop := ∀ s ∈ path.steps, newlines s.text = 0

theorem Step.newlines_text {s : Step} (h : s.key.Spelled) : newlines s.text = 0 := by
  rw [newlines_eq_zero_iff]
  intro hmem
  exact absurd (isAllowed_text h _ hmem) (by decide)

theorem Root.newlines_text (root : Root) : newlines root.text = 0 := by
  cases root with
  | record | index => rfl
  | column n =>
      rw [text, newlines_append, newlines_append, newlines_toString]
      rfl

namespace Path

theorem newlines_text {path : Path} (h : path.StepsOnLine) : newlines path.text = 0 := by
  rw [text, newlines_append, path.root.newlines_text, newlines_join, List.map_map, Nat.zero_add,
    List.sum_eq_zero_iff_forall_eq_nat]
  intro n hn
  obtain ⟨s, hs, rfl⟩ := List.mem_map.1 hn
  exact h s hs

theorem stepsOnLine_of_read? {chain : Bool} {raw : String} {path : Path}
    (h : read? chain raw = some path) : path.StepsOnLine := by
  rcases cases_of_read? h with rfl | ⟨-, hsteps⟩
  · exact List.forall_mem_nil _
  · exact fun s hs => Step.newlines_text (hsteps s hs).1

theorem StepsOnLine.placePath {layout : Layout} {path path' : Path}
    (hplaced : layout.placePath path = .ok path') (h : path.StepsOnLine) :
    path'.StepsOnLine := by
  rcases Layout.cases_of_placePath hplaced with ⟨rfl, -⟩ | ⟨column, used, rfl⟩
  · exact h
  · exact fun s hs => h s (List.mem_of_mem_drop hs)

end Path

theorem Registry.newlines_of_get? {registry : Registry} {name : String} {op : CustomOperator}
    (h : registry.get? name = some op) : newlines name = 0 := by
  have hidentifier : isIdentifier name = true := by
    rw [get?] at h
    split at h
    · assumption
    · cases h
  rw [newlines_eq_zero_iff]
  intro hmem
  rw [isIdentifier] at hidentifier
  split at hidentifier
  · cases hidentifier
  · next c cs hname =>
      rw [Bool.and_eq_true, List.all_eq_true] at hidentifier
      rw [hname] at hmem
      rcases List.mem_cons.1 hmem with rfl | hrest
      · exact absurd hidentifier.1 (by decide)
      · exact absurd (hidentifier.2 _ hrest) (by decide)

namespace Test

theorem newlines_describe {path : String} (h : newlines path = 0) (t : Test Slot Slot) :
    newlines (t.describe path) = 0 := by
  have hsymbol : ∀ op : Comparison, newlines op.symbol = 0 := by
    intro op
    cases op <;> rfl
  cases t with
  | compare op literal =>
      simp only [describe, newlines_append, h, hsymbol, newlines_toJson]
      rfl
  | range interval min max =>
      simp only [describe, newlines_append, h, hsymbol, newlines_toJson]
      rfl
  | truthy | falsy =>
      simp only [describe, newlines_append, h]
      rfl
  | member slot | pattern slot =>
      simp only [describe, newlines_append, h, newlines_toString]
      rfl
  | text op needle =>
      simp only [describe, newlines_append, h, newlines_toJson]
      cases op <;> rfl
  | type t =>
      simp only [describe, newlines_append, h]
      cases t <;> rfl

end Test

namespace Predicate

theorem everyPath_marked {P : Path → Prop} (negated : Bool) (p : Predicate) :
    (p.marked negated).everyPath P ↔ p.everyPath P := by
  cases negated <;> rfl

theorem newlines_describe_marked (negated : Bool) (p : Predicate) :
    newlines (p.marked negated).describe = newlines p.describe := by
  cases negated with
  | false => rfl
  | true =>
      rw [marked, if_pos rfl, describe, newlines_append, newlines_append]
      exact Nat.zero_add _

theorem newlines_describeRest {c : Combinator} {ps : List Predicate}
    (h : ∀ p ∈ ps, newlines p.describe = 0) : newlines (describeRest c ps) = 0 := by
  induction ps with
  | nil => rfl
  | cons p ps ih =>
      rw [List.forall_mem_cons] at h
      simp only [describeRest, newlines_append, h.1, ih h.2]
      cases c <;> rfl

theorem newlines_describe_combineAll {c : Combinator} {ps : List Predicate}
    (h : ∀ p ∈ ps, newlines p.describe = 0) : newlines (combineAll c ps).describe = 0 := by
  cases ps with
  | nil =>
      simp only [combineAll, describe]
      rfl
  | cons p ps =>
      rw [List.forall_mem_cons] at h
      cases ps with
      | nil => exact h.1
      | cons q qs =>
          simp only [combineAll, describe, newlines_append, h.1, newlines_describeRest h.2]
          rfl

end Predicate

namespace Expression

variable {options : CompileOptions} {table : HoistTable} {lossy : Bool}

mutual

theorem newlines_describe (v : Value) {p : Predicate} (h : HoistsTo options table lossy v p)
    (hpaths : p.everyPath Path.StepsOnLine) : newlines p.describe = 0 := by
  match v, p, h with
  | _, _, .never _ => rfl
  | .array (.string token :: operands), _, .custom hregistry =>
      rw [Predicate.newlines_describe_marked, Predicate.describe]
      simp only [newlines_append, Registry.newlines_of_get? hregistry, newlines_toJson]
      rfl
  | .array (.string token :: operands), _, .combine hregistry hop hall =>
      rw [Predicate.newlines_describe_marked]
      rw [Predicate.everyPath_marked] at hpaths
      exact Predicate.newlines_describe_combineAll
        (newlines_describe_all operands hall (Predicate.everyPathAll_of_combineAll hpaths))
  | .array (.string token :: left :: body :: rest), _,
      @HoistsTo.quantify _ _ _ _ _ _ _ q path _ hregistry hop hbody =>
      rw [Predicate.newlines_describe_marked, Predicate.describe]
      rw [Predicate.everyPath_marked] at hpaths
      simp only [newlines_append, Path.newlines_text hpaths.1,
        newlines_describe body hbody hpaths.2]
      cases q <;> rfl
  | .array (.string token :: operands), _, .test hregistry hop ht =>
      rw [Predicate.newlines_describe_marked, Predicate.describe]
      rw [Predicate.everyPath_marked] at hpaths
      exact Test.newlines_describe (Path.newlines_text hpaths) _

theorem newlines_describe_all (vs : List Value) {ps : List Predicate}
    (h : List.Forall₂ (HoistsTo options table lossy) vs ps)
    (hpaths : Predicate.everyPathAll Path.StepsOnLine ps) :
    ∀ p ∈ ps, newlines p.describe = 0 := by
  match vs, ps, h with
  | _, _, .nil => exact List.forall_mem_nil _
  | v :: vs, p :: ps, .cons hhead htail =>
      exact List.forall_mem_cons.2
        ⟨newlines_describe v hhead hpaths.1, newlines_describe_all vs htail hpaths.2⟩

end

end Expression

namespace Hoisted

def source : Hoisted → String
  | pattern p => p.source
  | members _ => ""

theorem newlines_describe (entry : Hoisted) :
    newlines entry.describe = newlines entry.source := by
  cases entry with
  | pattern p =>
      rw [describe, Pattern.describe, newlines_append, newlines_append, newlines_append]
      cases p.ignoreCase <;> exact Nat.zero_add _
  | members s =>
      rw [describe, MemberSet.describe, newlines_append, newlines_toJson]
      rfl

def line (slot : Slot) (entry : Hoisted) : String :=
  "#" ++ toString slot ++ " = " ++ entry.describe

theorem newlines_line (slot : Slot) (entry : Hoisted) :
    newlines (entry.line slot) = newlines entry.source := by
  simp only [line, newlines_append, newlines_toString, newlines_describe]
  exact Nat.zero_add _

end Hoisted

namespace HoistTable

def linesFrom (slot : Slot) (table : HoistTable) : List String :=
  (table.zipIdx slot).map fun (entry, slot) => entry.line slot

theorem linesFrom_cons (slot : Slot) (entry : Hoisted) (rest : HoistTable) :
    linesFrom slot (entry :: rest) = entry.line slot :: linesFrom (slot + 1) rest := by
  rw [linesFrom, List.zipIdx_cons, List.map_cons, linesFrom]

theorem listFrom_eq_join (slot : Slot) (table : HoistTable) :
    table.listFrom slot = String.join ((table.linesFrom slot).map (· ++ "\n")) := by
  induction table generalizing slot with
  | nil => rfl
  | cons entry rest ih =>
      rw [listFrom, ih, linesFrom_cons, List.map_cons, String.join_cons, Hoisted.line]

/-- The line ends in the lines of the literals are those in their sources. -/
theorem map_newlines_linesFrom (slot : Slot) (table : HoistTable) :
    (table.linesFrom slot).map newlines = table.map fun entry => newlines entry.source := by
  induction table generalizing slot with
  | nil => rfl
  | cons entry rest ih =>
      rw [linesFrom_cons, List.map_cons, ih, entry.newlines_line, List.map_cons]

end HoistTable

namespace Program

/-- The lines that a program is listed with: the predicate, and each literal behind the number
of its slot. -/
def lines (p : Program) : List String := p.body :: p.table.linesFrom 0

/-- The listing of a program is its lines with their ends, and any further line end stands in
the source of a pattern. So it consists of these lines exactly if no pattern has a line end
in its source. -/
structure ListsLines (p : Program) : Prop where
  explain : p.explain = String.join (p.lines.map (· ++ "\n"))
  length : p.lines.length = p.table.length + 1
  body : newlines p.body = 0
  line : ∀ slot entry, p.table[slot]? = some entry →
    p.lines[slot + 1]? = some ("#" ++ toString slot ++ " = " ++ entry.describe) ∧
      newlines entry.describe = newlines entry.source
  lineEnds : newlines p.explain =
    p.table.length + 1 + (p.table.map fun entry => newlines entry.source).sum
  isLines_iff : IsLines p.explain p.lines ↔ ∀ entry ∈ p.table, newlines entry.source = 0

variable {p : Program}

theorem length_lines (p : Program) : p.lines.length = p.table.length + 1 := by
  rw [lines, List.length_cons, HoistTable.linesFrom, List.length_map, List.length_zipIdx]

theorem explain_eq_join (p : Program) :
    p.explain = String.join (p.lines.map (· ++ "\n")) := by
  rw [explain, HoistTable.list, HoistTable.listFrom_eq_join, lines, List.map_cons,
    String.join_cons]

theorem listsLines_of_body (hbody : newlines p.body = 0) : p.ListsLines where
  explain := p.explain_eq_join
  length := p.length_lines
  body := hbody
  line slot entry hentry := by
    refine ⟨?_, entry.newlines_describe⟩
    rw [lines, List.getElem?_cons_succ, HoistTable.linesFrom, List.getElem?_map,
      List.getElem?_zipIdx, hentry, Option.map_some, Option.map_some, Nat.zero_add]
    rfl
  lineEnds := by
    rw [p.explain_eq_join, newlines_joinLines, p.length_lines, lines, List.map_cons, hbody,
      HoistTable.map_newlines_linesFrom, List.sum_cons, Nat.zero_add]
  isLines_iff := by
    have hlines : (∀ line ∈ p.table.linesFrom 0, newlines line = 0) ↔
        ∀ entry ∈ p.table, newlines entry.source = 0 := by
      have hmap := HoistTable.map_newlines_linesFrom 0 p.table
      rw [← List.forall_mem_map (P := (· = 0)), hmap, List.forall_mem_map]
    rw [IsLines, and_iff_right p.explain_eq_join, lines, List.forall_mem_cons,
      and_iff_right hbody, hlines]

end Program

namespace Compilation

variable {options : CompileOptions} {compile : Value → Compilation Program}
  {place : Predicate → Predicate} {fits : Predicate → Bool}

theorem Places.listsLines (h : Places options compile place fits)
    (hplace : Predicate.Placing place fits)
    (hpaths : ∀ p : Predicate, p.everyPath Path.StepsOnLine →
      (place p).everyPath Path.StepsOnLine) {expr : Value} {p : Program}
    (hp : (compile expr).outcome = .ok p) : p.ListsLines := by
  have hoists : Expression.HoistsTo options p.table true expr p.root :=
    h.hoistsTo hplace hp nofun
  apply Program.listsLines_of_body
  apply Expression.newlines_describe expr hoists
  exact h.everyPath (fun _ _ => Path.stepsOnLine_of_read?) hpaths hp

/-- Whatever compiles, for records or for columns, is listed by lines, with no line ends but
their own and those in the sources of patterns. -/
theorem listsLines_compile (options : CompileOptions) (names : Option (List String))
    (expr : Value) :
    (∀ p, (Program.compile options expr).outcome = .ok p → p.ListsLines) ∧
      ∀ p, (ColumnProgram.compile names options expr).outcome = .ok p → p.program.ListsLines := by
  constructor
  · intro p hp
    exact (Program.places_compile options).listsLines Predicate.placing_id (fun _ h => h) hp
  · intro p hp
    obtain ⟨layout, hl, hmap⟩ := ColumnProgram.exists_layout_of_compile hp
    exact (ColumnProgram.places_compile hl options).listsLines layout.placing
      (fun _ h => layout.everyPath_image (fun _ _ => Path.StepsOnLine.placePath) h) hmap

/-- A member with a line end that goes on like the line of a literal, in a column. -/
theorem listsLines_compile_member :
    ∃ p, (ColumnProgram.compile (some [".a"]) ⟨false, false, []⟩ (.array [.string "some",
          .string ".a", .array [.string "in", .string "$.b", .array [.string "x\n#1 = set[]",
            .integer 2]]])).outcome = .ok p ∧ p.program.ListsLines ∧
      IsLines p.explain ["some($[0][$i], $.b in #0)", "#0 = set[\"x\\n#1 = set[]\",2]"] := by
  obtain ⟨p, hp⟩ : ∃ p, (ColumnProgram.compile (some [".a"]) ⟨false, false, []⟩ (.array [
      .string "some", .string ".a", .array [.string "in", .string "$.b",
        .array [.string "x\n#1 = set[]", .integer 2]]])).outcome = .ok p := ⟨_, rfl⟩
  have hlists := (listsLines_compile _ _ _).2 p hp
  have hlines : p.program.lines =
      ["some($[0][$i], $.b in #0)", "#0 = set[\"x\\n#1 = set[]\",2]"] := by
    cases hp
    rfl
  refine ⟨p, hp, hlists, ?_⟩
  rw [← hlines]
  refine hlists.isLines_iff.2 ?_
  cases hp
  decide

/-- A line end in the source of a pattern ends the line of its literal. -/
theorem not_isLines_pattern :
    ∃ p, (Program.compile ⟨false, false, []⟩ (.array [.string "re", .string ".a",
          .string "a\nb"])).outcome = .ok p ∧
      p.table.length = 1 ∧ p.explain = "$.a =~ #0\n#0 = /a\nb/\n" ∧ newlines p.explain = 3 ∧
      ¬IsLines p.explain p.lines := by
  refine ⟨_, rfl, rfl, rfl, rfl, fun h => ?_⟩
  have hline := h.2 "#0 = /a\nb/" (List.mem_cons_of_mem _ List.mem_cons_self)
  exact absurd hline (by decide)

end Compilation

end RecordFilter
