import Mathlib.Data.List.Basic
import RecordFilter.Proofs.Predicate.Leaves
import RecordFilter.Program.Basic

/-!
# The fields that a program reads

A path into the record finds its first step among the fields of the record by the text of
the step, whether that is a name or a number, and from there on it has nothing more of the
record. A program whose leaves all have such paths, so that nothing in it is given the whole
record, reads no fields but these (`Program.fieldsRead`): two objects that hold the same in
them get the same answer (`Path.resolve_ofRecord_congr`).

A record may therefore be cut down to the fields that the program reads before it is
filtered (`Value.project`).
-/

namespace RecordFilter

/-- A number finds among the fields of an object what its digits find. -/
theorem Key.lookup_object (key : Key) (fields : List (String × Value)) :
    key.lookup (.object fields) = fields.lookup key.text := by
  cases key <;> rfl

namespace Path

def field? : Path → Option String
  | ⟨.record, s :: _⟩ => some s.key.text
  | _ => none

theorem resolve_ofRecord_congr {path : Path} (hpath : path ≠ .record)
    {fields fields' : List (String × Value)}
    (h : ∀ key, path.field? = some key → fields.lookup key = fields'.lookup key)
    (position : Position) :
    path.resolve (.ofRecord (.object fields) position) =
      path.resolve (.ofRecord (.object fields') position) := by
  match path with
  | ⟨.record, []⟩ => exact absurd rfl hpath
  | ⟨.record, s :: ss⟩ =>
      have hlookup : s.key.lookup (.object fields) = s.key.lookup (.object fields') := by
        rw [Key.lookup_object, Key.lookup_object, h _ rfl]
      change follow _ ss (s.key.lookup (.object fields)) =
        follow _ ss (s.key.lookup (.object fields'))
      rw [hlookup]
  | ⟨.index, _⟩ | ⟨.column _, _⟩ => rfl

end Path

namespace Value

/-- The record with no fields but some; what is no object stays as it is. -/
def project (names : List String) : Value → Value
  | object fields => object (fields.filter fun field => names.contains field.1)
  | v => v

theorem lookup_filter_name {α : Type} (keep : String → Bool) (key : String)
    (fields : List (String × α)) :
    (fields.filter fun field => keep field.1).lookup key =
      if keep key then fields.lookup key else none := by
  induction fields with
  | nil => rw [List.filter_nil, List.lookup_nil, ite_self]
  | cons field rest ih =>
      obtain ⟨name, a⟩ := field
      rw [List.filter_cons, lookup_cons_ite]
      by_cases hkey : key = name
      · subst hkey
        cases hkeep : keep key with
        | true => simp
        | false => simp [ih, hkeep]
      · rw [if_neg hkey]
        cases keep name with
        | true => rw [if_pos rfl, lookup_cons_ite, if_neg hkey, ih]
        | false => simpa using ih

theorem lookup_project {names : List String} {key : String} (hkey : key ∈ names)
    (fields : List (String × Value)) :
    (fields.filter fun field => names.contains field.1).lookup key = fields.lookup key := by
  rw [lookup_filter_name names.contains, if_pos (List.contains_iff_mem.2 hkey)]

end Value

theorem Source.ofList_map (f : Value → Value) (records : List Value) :
    ofList (records.map f) = fun position => (ofList records position).map f := by
  funext position
  exact List.getElem?_map

namespace Program

/-- The fields of the record that the predicate names outside of the bodies of
quantifiers. -/
def fieldsRead (p : Program) : List String := p.root.outerPaths.filterMap Path.field?

/-- What the program is given of a record is values of fields: no path outside of the bodies
of quantifiers is the whole record, and no custom operator is asked there. -/
structure ReadsFields (p : Program) : Prop where
  paths : Path.record ∉ p.root.outerPaths
  noCustom : ∀ name op config, .custom name op config ∉ p.root.leaves

namespace ReadsFields

variable {p : Program} (hp : p.ReadsFields)

include hp

/-- Two objects that hold the same in the fields that are read get the same answer. -/
theorem answer_congr {fields fields' : List (String × Value)}
    (h : ∀ key ∈ p.fieldsRead, fields.lookup key = fields'.lookup key) (position : Position) :
    p.answer (.object fields) position = p.answer (.object fields') position := by
  refine p.root.eval_eq_of_resolve hp.noCustom fun path hpath => ?_
  refine Path.resolve_ofRecord_congr (fun heq => hp.paths (heq ▸ hpath)) (fun key hkey => ?_) _
  exact h key (List.mem_filterMap.2 ⟨path, hpath, hkey⟩)

theorem answer_project (record : Value) (position : Position) :
    p.answer (record.project p.fieldsRead) position = p.answer record position := by
  cases record with
  | object fields =>
      exact hp.answer_congr (fun key hkey => Value.lookup_project hkey fields) position
  | _ => rfl

theorem hits_project (source : Source) (candidates : List Position) :
    p.hits (fun position => (source position).map (·.project p.fieldsRead)) candidates =
      (p.hits source candidates).map fun hit => (hit.1, hit.2.project p.fieldsRead) := by
  rw [hits, hits, List.map_filterMap]
  refine List.filterMap_congr fun position _ => ?_
  cases source position with
  | none => rfl
  | some record =>
      have haccepts : p.accepts (record.project p.fieldsRead) position =
          p.accepts record position := congrArg isMatch (hp.answer_project record position)
      rw [Option.map_some, Option.bind_some, Option.bind_some, haccepts]
      cases p.accepts record position <;> rfl

end ReadsFields

/-- A program that is given values of fields answers two objects alike if they hold the same
in the fields that it reads, and a list of records is filtered as if all records had those
fields alone. -/
theorem answer_eq_of_fields {p : Program} (hp : p.ReadsFields) :
    (∀ fields fields' position,
      (∀ key ∈ p.fieldsRead, fields.lookup key = fields'.lookup key) →
      p.answer (.object fields) position = p.answer (.object fields') position) ∧
    (∀ record position, p.answer (record.project p.fieldsRead) position =
      p.answer record position) ∧
    ∀ records candidates,
      p.filterPositions (records.map (·.project p.fieldsRead)) candidates =
        p.filterPositions records candidates ∧
      p.filter (records.map (·.project p.fieldsRead)) candidates =
        (p.filter records candidates).map (·.project p.fieldsRead) := by
  refine ⟨fun _ _ position h => hp.answer_congr h position, hp.answer_project,
    fun records candidates => ?_⟩
  have hcandidates : candidatesOf (records.map (·.project p.fieldsRead)) candidates =
      candidatesOf records candidates := by
    rw [candidatesOf, List.length_map, candidatesOf]
  constructor
  · rw [filterPositions, positionsIn, hcandidates, Source.ofList_map, hp.hits_project,
      List.map_map, filterPositions, positionsIn]
    rfl
  · rw [filter, recordsIn, hcandidates, Source.ofList_map, hp.hits_project, List.map_map,
      filter, recordsIn, List.map_map]
    rfl

/-- The body of a quantifier is about the whole item and a number names a field, in two
records that differ in what is not read. -/
theorem answer_eq_of_fields_quantified :
    ∃ p : Program, (compile ⟨false, false, []⟩ (.array [.string "&&",
          .array [.string ">", .string ".a.b", .integer 0],
          .array [.string "some", .string "[7]", .array [.string "==", .string "$",
            .integer 1]]])).outcome = .ok p ∧
      p.ReadsFields ∧ p.fieldsRead = ["a", "7"] ∧
      p.answer (.object [("a", .object [("b", .integer 2)]), ("7", .array [.integer 1])]) 0 =
        p.answer (.object [("7", .array [.integer 1]), ("c", .null),
          ("a", .object [("b", .integer 2)])]) 0 := by
  have hreads : ReadsFields ⟨.combine .all [
      .test ⟨.record, [⟨.field "a", false⟩, ⟨.field "b", false⟩]⟩ (.compare .gt (.integer 0)),
      .quantify ⟨.record, [⟨.index 7, false⟩]⟩ .any
        (.test .record (.compare .eq (.integer 1)))], []⟩ := by
    constructor
    · decide
    · intro name op config h
      simp [Predicate.leaves, Predicate.leavesAll] at h
  refine ⟨_, rfl, hreads, rfl, (answer_eq_of_fields hreads).1 _ _ 0 ?_⟩
  exact List.forall_mem_cons.2 ⟨rfl, List.forall_mem_singleton.2 rfl⟩

end Program

end RecordFilter
