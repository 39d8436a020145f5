import Mathlib.Data.List.Basic
import RecordFilter.Command.Basic

/-!
# Ways to run a program over records

A program can be asked about one record, about one position of a source, and for all hits
among some candidates, be it their positions or their records, and a list of records is a
source as well. All of these come to one predicate on positions (`BuildersAgree`): there
is a record, and the program is true of it at this position. What is asked is the
position in the source and never the place among the candidates, so the hits of two lists
of candidates are those of the one followed by those of the other.

On the command line the records of a document are the items of an array, and asking for
positions instead of records gives the positions of those same items
(`Command.FiltersAlike`).
-/

namespace RecordFilter

namespace Program

/-- All ways to run a program over records describe one predicate. -/
structure BuildersAgree (p : Program) : Prop where
  acceptsAt_iff : ∀ source position, p.acceptsAt source position = true ↔
    ∃ record, source position = some record ∧ p.answer record position = .ok true
  answerAt_iff : ∀ source position, p.answerAt source position = .ok true ↔
    p.acceptsAt source position = true
  positions : ∀ source candidates,
    p.positionsIn source candidates = candidates.filter (p.acceptsAt source)
  records : ∀ source candidates,
    (p.recordsIn source candidates).map some = (p.positionsIn source candidates).map source
  append : ∀ source cs ds,
    p.positionsIn source (cs ++ ds) = p.positionsIn source cs ++ p.positionsIn source ds ∧
      p.recordsIn source (cs ++ ds) = p.recordsIn source cs ++ p.recordsIn source ds
  congr : ∀ source other candidates, (∀ c ∈ candidates, source c = other c) →
    p.positionsIn source candidates = p.positionsIn other candidates ∧
      p.recordsIn source candidates = p.recordsIn other candidates
  ofList : ∀ records candidates,
    p.filterPositions records candidates = p.positionsIn (.ofList records)
        (candidates.getD (Source.positionsBelow records.length)) ∧
      p.filter records candidates = p.recordsIn (.ofList records)
        (candidates.getD (Source.positionsBelow records.length))
  places : ∀ records : List Value, records.length ≤ UInt64.size →
    (p.filterPositions records none).map UInt64.toNat = (List.range records.length).filter
      fun i => records[i]?.any (p.accepts · (UInt64.ofNat i))

theorem isMatch_eq_true_iff {x : Except EvalError Bool} : isMatch x = true ↔ x = .ok true := by
  cases x with
  | error e => simp [isMatch]
  | ok b => simp [isMatch]

variable (p : Program)

theorem acceptsAt_eq_true_iff (source : Source) (position : Position) :
    p.acceptsAt source position = true ↔
      ∃ record, source position = some record ∧ p.answer record position = .ok true := by
  simp only [acceptsAt, Option.any_eq_true, accepts, isMatch_eq_true_iff]

theorem answerAt_eq_true_iff (source : Source) (position : Position) :
    p.answerAt source position = .ok true ↔ p.acceptsAt source position = true := by
  rw [acceptsAt_eq_true_iff, answerAt]
  cases source position with
  | none => simp
  | some record => simp

theorem source_of_mem_hits {source : Source} {candidates : List Position}
    {hit : Position × Value} (h : hit ∈ p.hits source candidates) :
    source hit.1 = some hit.2 := by
  obtain ⟨position, -, hsome⟩ := List.mem_filterMap.1 h
  obtain ⟨record, hrecord, hif⟩ := Option.bind_eq_some_iff.1 hsome
  split at hif
  · cases hif
    exact hrecord
  · cases hif

theorem map_some_recordsIn (source : Source) (candidates : List Position) :
    (p.recordsIn source candidates).map some = (p.positionsIn source candidates).map source := by
  rw [recordsIn, positionsIn, List.map_map, List.map_map]
  apply List.map_congr_left
  intro hit h
  exact (p.source_of_mem_hits h).symm

theorem hits_congr {source other : Source} {candidates : List Position}
    (h : ∀ c ∈ candidates, source c = other c) :
    p.hits source candidates = p.hits other candidates := by
  apply List.filterMap_congr
  intro c hc
  rw [h c hc]

theorem map_toNat_filterPositions {records : List Value} (h : records.length ≤ UInt64.size) :
    (p.filterPositions records none).map UInt64.toNat = (List.range records.length).filter
      fun i => records[i]?.any (p.accepts · (UInt64.ofNat i)) := by
  have hplace : ∀ i ∈ List.range records.length, (UInt64.ofNat i).toNat = i := by
    intro i hi
    exact UInt64.toNat_ofNat_of_lt' (Nat.lt_of_lt_of_le (List.mem_range.1 hi) h)
  have hfilter : (List.range records.length).filter
      (p.acceptsAt (.ofList records) ∘ UInt64.ofNat) =
      (List.range records.length).filter fun i =>
        records[i]?.any (p.accepts · (UInt64.ofNat i)) := by
    apply List.filter_congr
    intro i hi
    rw [Function.comp, acceptsAt, Source.ofList, hplace i hi]
  rw [filterPositions, positionsIn_eq_filter, candidatesOf, Option.getD_none,
    Source.positionsBelow, List.filter_map, List.map_map, hfilter]
  refine (List.map_congr_left fun i hi => ?_).trans (List.map_id _)
  exact hplace i (List.mem_of_mem_filter hi)

theorem buildersAgree : p.BuildersAgree where
  acceptsAt_iff := p.acceptsAt_eq_true_iff
  answerAt_iff := p.answerAt_eq_true_iff
  positions := p.positionsIn_eq_filter
  records := p.map_some_recordsIn
  append source cs ds := by
    constructor
    · rw [positionsIn, hits_append, List.map_append, positionsIn, positionsIn]
    · rw [recordsIn, hits_append, List.map_append, recordsIn, recordsIn]
  congr source other candidates h := by
    constructor
    · rw [positionsIn, p.hits_congr h, positionsIn]
    · rw [recordsIn, p.hits_congr h, recordsIn]
  ofList records candidates := ⟨rfl, rfl⟩
  places _ h := p.map_toNat_filterPositions h

end Program

namespace Command

def rowInput (expr : String) (input : Option String) (o : CommandOptions) :
    Except CommandError (List Value × Program) := do
  let expr ← document expr
  let some input := input | .error .noInput
  let records ← items "input" (← document input)
  return (records, ← o.program expr)

variable {expr : String} {input : Option String} {o : CommandOptions}

/-- Without columns both ways to filter a document run the program over its items. -/
theorem filterDocument_of_rows (h : o.columnar = false) (positions : Bool) :
    filterDocument expr input positions o = (rowInput expr input o).map fun (records, p) =>
      if positions then positionsValue (p.filterPositions records none)
      else .array (p.filter records none) := by
  simp only [filterDocument, rowInput, h, bind, Except.bind]
  cases document expr with
  | error e => rfl
  | ok v =>
      cases input with
      | none => rfl
      | some text =>
          simp only
          cases document text with
          | error e => rfl
          | ok doc =>
              simp only
              cases items "input" doc with
              | error e => rfl
              | ok records =>
                  simp only
                  cases o.program v <;> rfl

theorem exists_of_bind_eq_ok {α β : Type} {x : Except CommandError α}
    {f : α → Except CommandError β} {b : β} (h : x >>= f = .ok b) :
    ∃ a, x = .ok a ∧ f a = .ok b := by
  cases x with
  | error e => cases h
  | ok a => exact ⟨a, rfl, h⟩

theorem eq_array_of_items {what : String} {v : Value} {records : List Value}
    (h : items what v = .ok records) : v = .array records := by
  cases v with
  | array items =>
      cases h
      rfl
  | _ => cases h

/-- The input is a document of items, and the expression one that compiles to a program. -/
def Reads (expr : String) (input : Option String) (o : CommandOptions) (items : List Value)
    (p : Program) : Prop :=
  (∃ v, document expr = .ok v ∧ o.program v = .ok p) ∧
    ∃ text, input = some text ∧ document text = .ok (.array items)

theorem rowInput_eq_ok_iff {records : List Value} {p : Program} :
    rowInput expr input o = .ok (records, p) ↔ Reads expr input o records p := by
  constructor
  · intro h
    obtain ⟨v, hv, h⟩ := exists_of_bind_eq_ok h
    cases input with
    | none => cases h
    | some text =>
        obtain ⟨doc, hdoc, h⟩ := exists_of_bind_eq_ok h
        obtain ⟨found, hitems, h⟩ := exists_of_bind_eq_ok h
        obtain ⟨q, hq, h⟩ := exists_of_bind_eq_ok h
        cases h
        rw [eq_array_of_items hitems] at hdoc
        exact ⟨⟨v, hv, hq⟩, text, rfl, hdoc⟩
  · rintro ⟨⟨v, hv, hp⟩, text, rfl, hdoc⟩
    simp only [rowInput, hv, hdoc, items, hp, bind, Except.bind]
    rfl

/-- Filtering a document for positions and for records gives positions in the document and
the items there, or the same error where there is no document of items or no program. -/
structure FiltersAlike (expr : String) (input : Option String) (o : CommandOptions) : Prop where
  ok : ∀ items p, Reads expr input o items p →
    filterDocument expr input true o = .ok (positionsValue (p.filterPositions items none)) ∧
      filterDocument expr input false o = .ok (.array (p.filter items none)) ∧
      (p.filterPositions items none).map (Source.ofList items) =
        (p.filter items none).map some
  error : (∀ items p, ¬ Reads expr input o items p) →
    ∃ e, filterDocument expr input true o = .error e ∧
      filterDocument expr input false o = .error e

theorem filtersAlike_of_rows (h : o.columnar = false) : FiltersAlike expr input o where
  ok items p hreads := by
    rw [filterDocument_of_rows h, filterDocument_of_rows h, rowInput_eq_ok_iff.2 hreads]
    exact ⟨rfl, rfl, (p.map_some_recordsIn (.ofList items) _).symm⟩
  error hnone := by
    rw [filterDocument_of_rows h, filterDocument_of_rows h]
    cases hrows : rowInput expr input o with
    | error e => exact ⟨e, rfl, rfl⟩
    | ok found => exact absurd (rowInput_eq_ok_iff.1 hrows) (hnone _ _)

end Command

/-- All ways to run a program over records describe one predicate, and so do the two ways
to filter a document without columns. -/
theorem Program.rowBuilders_agree :
    (∀ p : Program, p.BuildersAgree) ∧
      ∀ expr input chain strict names,
        Command.FiltersAlike expr input ⟨chain, strict, false, names⟩ :=
  ⟨buildersAgree, fun _ _ _ _ _ => Command.filtersAlike_of_rows rfl⟩

end RecordFilter
