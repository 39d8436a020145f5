import RecordFilter.Proofs.Predicate.Canonical
import RecordFilter.Proofs.Test.Notation

/-!
# Predicates are told apart by their texts

The notation of predicates is unambiguous: of the predicates in canonical form (`Told`), no two
have the same text (`Told.describe_inj`). By induction on the predicate, more is shown
(`Reads`). If a text starts with the predicate and goes on as a listing does, then it starts
with no other, and the rest is the same. The first word tells what kind of predicate it is
(`Opening`), and parts behind it are told apart one after the other.

Ranges take some care. A range is shown like two conjuncts, and it is read as a range unless
there is another conjunct behind it. Among conjuncts there are no ranges in canonical form.
Among the children of an any-combination there may be, and then the text of the children is
not that of conjuncts, for no conjunct follows the range (`not_clash`).
-/

namespace RecordFilter.Predicate

def opening : Predicate → Opening
  | combine _ _ => .group
  | not _ => .not
  | quantify _ q _ => .quantify q
  | test _ t => t.opening
  | _ => .never

/-- Predicates that are told by their texts: with legible paths, literals that are told, no
custom operators, two children or more below combinators, and no ranges among conjuncts. -/
inductive Told : Predicate → Prop
  | never : Told never
  | combine {c : Combinator} {p p' : Predicate} {ps : List Predicate}
      (hranges : c = .all → ∀ q ∈ p :: p' :: ps, q.isRange = false)
      (h : ∀ q ∈ p :: p' :: ps, Told q) : Told (combine c (p :: p' :: ps))
  | not {body : Predicate} (h : Told body) : Told (not body)
  | quantify {path : Path} {q : Quantifier} {body : Predicate} (hpath : path.Legible)
      (h : Told body) : Told (quantify path q body)
  | test {path : Path} {t : Test Slot Slot} (hpath : path.Legible) (ht : t.Told) :
      Told (test path t)

/-- A text that does not go on with a conjunct behind a range has one predicate in front, if
that is `p`. -/
def Reads (p : Predicate) : Prop :=
  ∀ ⦃q : Predicate⦄, q.Told → ∀ ⦃s t : List Char⦄, Stops s → Stops t →
    p.isRange = false ∧ q.isRange = false ∨ ¬ Joins s ∧ ¬ Joins t →
      p.describe.toList ++ s = q.describe.toList ++ t → p = q ∧ s = t

theorem Told.exists_describe_eq {p : Predicate} (hp : p.Told) :
    ∃ rest, p.describe.toList = p.opening.word.toList ++ rest := by
  cases hp with
  | never => exact ⟨[], rfl⟩
  | combine | not | quantify =>
      simp only [describe, opening, Opening.word, String.toList_append, List.append_assoc]
      exact ⟨_, rfl⟩
  | test => exact Test.exists_describe_eq _ _

variable {p q : Predicate} {s t : List Char}

theorem Told.opening_eq (hp : p.Told) (hq : q.Told)
    (h : p.describe.toList ++ s = q.describe.toList ++ t) : p.opening = q.opening := by
  obtain ⟨rest, hrest⟩ := hp.exists_describe_eq
  obtain ⟨rest', hrest'⟩ := hq.exists_describe_eq
  rw [hrest, hrest', List.append_assoc, List.append_assoc] at h
  exact (Opening.word_append_inj h).1

theorem not_joins_nil : ¬ Joins [] := by
  rintro ⟨rest, hrest⟩
  cases hrest

theorem not_joins_closing (s : List Char) : ¬ Joins (')' :: s) := by
  rintro ⟨rest, hrest⟩
  cases hrest

theorem reads_never : Reads never := by
  intro q hq s t _ _ _ h
  have hopening := Told.never.opening_eq hq h
  cases hq with
  | never => exact ⟨rfl, List.append_cancel_left h⟩
  | @test _ t => cases t <;> cases hopening
  | _ => cases hopening

theorem reads_not {body : Predicate} (hbody : body.Told) (hreads : Reads body) :
    Reads (not body) := by
  intro q hq s t hs ht _ h
  have hopening := (Told.not hbody).opening_eq hq h
  cases hq with
  | not hbody' =>
      simp only [describe, String.toList_append, List.append_assoc] at h
      obtain ⟨rfl, hrest⟩ := hreads hbody' (.closing s) (.closing t)
        (.inr ⟨not_joins_closing s, not_joins_closing t⟩) (List.append_cancel_left h)
      exact ⟨rfl, (List.cons.inj hrest).2⟩
  | @test _ t => cases t <;> cases hopening
  | _ => cases hopening

theorem reads_quantify {path : Path} {k : Quantifier} {body : Predicate} (hpath : path.Legible)
    (hbody : body.Told) (hreads : Reads body) : Reads (quantify path k body) := by
  intro q hq s t hs ht _ h
  have hopening := (Told.quantify hpath hbody).opening_eq hq h
  cases hq with
  | quantify hpath' hbody' =>
      cases hopening
      obtain ⟨rfl, hargument⟩ := hpath.arguments_append_inj hpath' h
      obtain ⟨rfl, hrest⟩ := hreads hbody' (.closing s) (.closing t)
        (.inr ⟨not_joins_closing s, not_joins_closing t⟩) hargument
      exact ⟨rfl, (List.cons.inj hrest).2⟩
  | @test _ t => cases t <;> cases hopening
  | _ => cases hopening

theorem reads_test {path : Path} {u : Test Slot Slot} (hpath : path.Legible) (hu : u.Told) :
    Reads (test path u) := by
  intro q hq s t hs ht hjoins h
  have hopening := (Told.test hpath hu).opening_eq hq h
  cases hq with
  | test hpath' hu' =>
      obtain ⟨rfl, rfl, hrest⟩ := Test.describe_append_inj hpath hpath' hu hu' hs ht hjoins h
      exact ⟨rfl, hrest⟩
  | _ => cases u <;> cases hopening

/-! ### Combinations -/

def restText (c : Combinator) (ps : List Predicate) (s : List Char) : List Char :=
  (describeRest c ps).toList ++ ')' :: s

theorem restText_cons (c : Combinator) (p : Predicate) (ps : List Predicate) (s : List Char) :
    restText c (p :: ps) s =
      ' ' :: (c.symbol.toList ++ ' ' :: (p.describe.toList ++ restText c ps s)) := by
  simp only [restText, describeRest, String.toList_append, List.append_assoc]
  rfl

theorem stops_restText (c : Combinator) (ps : List Predicate) (s : List Char) :
    Stops (restText c ps s) := by
  cases ps with
  | nil => exact .closing s
  | cons p ps =>
      rw [restText_cons]
      exact .space _

theorem not_joins_restText_any (ps : List Predicate) (s : List Char) :
    ¬ Joins (restText .any ps s) := by
  cases ps with
  | nil => exact not_joins_closing s
  | cons p ps =>
      rw [restText_cons]
      rintro ⟨rest, hrest⟩
      cases hrest

theorem toList_describe_combine (c : Combinator) (p : Predicate) (ps : List Predicate)
    (s : List Char) :
    (combine c (p :: ps)).describe.toList ++ s =
      '(' :: (p.describe.toList ++ restText c ps s) := by
  simp only [describe, String.toList_append, List.append_assoc]
  rfl

theorem restText_all_cons (p : Predicate) (ps : List Predicate) (s : List Char) :
    restText .all (p :: ps) s = " && ".toList ++ (p.describe.toList ++ restText .all ps s) := by
  rw [restText_cons]
  rfl

theorem restText_all_ne_any (ps : List Predicate) (q : Predicate) (qs : List Predicate) :
    restText .all ps s ≠ restText .any (q :: qs) t := by
  intro h
  cases ps with
  | nil =>
      rw [restText_cons] at h
      cases h
  | cons p ps =>
      rw [restText_cons, restText_cons] at h
      cases h

theorem restText_cons_inj {c : Combinator} {ps qs : List Predicate}
    (h : restText c (p :: ps) s = restText c (q :: qs) t) :
    p.describe.toList ++ restText c ps s = q.describe.toList ++ restText c qs t := by
  rw [restText_cons, restText_cons] at h
  exact (List.cons.inj (List.append_cancel_left (List.cons.inj h).2)).2

theorem child_inj {c : Combinator} (hp : Reads p) (hq : q.Told)
    (hranges : c = .all → p.isRange = false ∧ q.isRange = false) {ps qs : List Predicate}
    (h : p.describe.toList ++ restText c ps s = q.describe.toList ++ restText c qs t) :
    p = q ∧ restText c ps s = restText c qs t := by
  refine hp hq (stops_restText c ps s) (stops_restText c qs t) ?_ h
  cases c with
  | all => exact .inl (hranges rfl)
  | any => exact .inr ⟨not_joins_restText_any ps s, not_joins_restText_any qs t⟩

theorem restText_inj {c : Combinator} {ps qs : List Predicate} (hps : ∀ p ∈ ps, Reads p)
    (hqs : ∀ q ∈ qs, q.Told) (hpranges : c = .all → ∀ p ∈ ps, p.isRange = false)
    (hqranges : c = .all → ∀ q ∈ qs, q.isRange = false)
    (h : restText c ps s = restText c qs t) : ps = qs ∧ s = t := by
  induction ps generalizing qs with
  | nil =>
      cases qs with
      | nil => exact ⟨rfl, (List.cons.inj h).2⟩
      | cons q qs =>
          rw [restText_cons] at h
          cases h
  | cons p ps ih =>
      cases qs with
      | nil =>
          rw [restText_cons] at h
          cases h
      | cons q qs =>
          rw [List.forall_mem_cons] at hps hqs
          obtain ⟨rfl, hrest⟩ := child_inj hps.1 hqs.1 (fun hc =>
            ⟨hpranges hc p List.mem_cons_self, hqranges hc q List.mem_cons_self⟩)
            (restText_cons_inj h)
          obtain ⟨rfl, hst⟩ := ih hps.2 hqs.2
            (fun hc => fun p' hp' => hpranges hc p' (List.mem_cons_of_mem _ hp'))
            (fun hc => fun q' hq' => hqranges hc q' (List.mem_cons_of_mem _ hq')) hrest
          exact ⟨rfl, hst⟩

/-- An all-combination and an any-combination are shown differently. The second one may have a
range where the first one has two comparisons, but then goes on with another symbol. -/
theorem not_clash {a a' b b' : Predicate} {as bs : List Predicate} (ha : a.Told) (ha' : a'.Told)
    (hb : b.Told) (hrange : a.isRange = false) (hrange' : a'.isRange = false)
    (hread : b.isRange = false →
      a.describe.toList ++ restText .all (a' :: as) s =
          b.describe.toList ++ restText .any (b' :: bs) t →
        restText .all (a' :: as) s = restText .any (b' :: bs) t) :
    a.describe.toList ++ restText .all (a' :: as) s ≠
      b.describe.toList ++ restText .any (b' :: bs) t := by
  intro h
  cases hb with
  | @test path u hpath hu =>
      cases hu' : u.isRange with
      | false => exact restText_all_ne_any _ _ _ (hread hu' h)
      | true =>
          obtain ⟨interval, min, max, rfl⟩ := Test.exists_of_isRange hu'
          have hlower : Reads (test path (.compare interval.lower min)) :=
            reads_test hpath (u := .compare interval.lower min) hu.1
          have hupper : Reads (test path (.compare interval.upper max)) :=
            reads_test hpath (u := .compare interval.upper max) hu.2
          rw [describe, Test.toList_describe_range, List.append_assoc, List.append_assoc] at h
          obtain ⟨-, hrest⟩ := hlower ha (stops_conjunct _) (stops_restText _ _ _)
            (.inl ⟨rfl, hrange⟩) h.symm
          rw [restText_all_cons] at hrest
          obtain ⟨-, hrest⟩ := hupper ha' (stops_restText _ _ _) (stops_restText _ _ _)
            (.inl ⟨rfl, hrange'⟩) (List.append_cancel_left hrest)
          exact restText_all_ne_any _ _ _ hrest.symm
  | _ => exact restText_all_ne_any _ _ _ (hread rfl h)

theorem reads_combine {c : Combinator} {p p' : Predicate} {ps : List Predicate}
    (hranges : c = .all → ∀ q ∈ p :: p' :: ps, q.isRange = false)
    (htold : ∀ q ∈ p :: p' :: ps, q.Told) (hreads : ∀ q ∈ p :: p' :: ps, Reads q) :
    Reads (combine c (p :: p' :: ps)) := by
  intro q hq s t hs ht _ h
  have hopening := (Told.combine hranges htold).opening_eq hq h
  cases hq with
  | @combine c' q q' qs hqranges hqtold =>
      rw [toList_describe_combine, toList_describe_combine] at h
      have hchildren := (List.cons.inj h).2
      obtain ⟨hp, hps⟩ := List.forall_mem_cons.1 hreads
      obtain ⟨hqtold, hqstold⟩ := List.forall_mem_cons.1 hqtold
      obtain rfl : c = c' := by
        cases c with
        | all =>
            cases c' with
            | all => rfl
            | any =>
                obtain ⟨hrange, hrest⟩ := List.forall_mem_cons.1 (hranges rfl)
                obtain ⟨hptold, hpstold⟩ := List.forall_mem_cons.1 htold
                refine absurd hchildren (not_clash hptold (List.forall_mem_cons.1 hpstold).1 hqtold
                  hrange (List.forall_mem_cons.1 hrest).1 fun hrange' h => ?_)
                exact (hp hqtold (stops_restText _ _ _) (stops_restText _ _ _)
                  (.inl ⟨hrange, hrange'⟩) h).2
        | any =>
            cases c' with
            | any => rfl
            | all =>
                obtain ⟨hrange, hrest⟩ := List.forall_mem_cons.1 (hqranges rfl)
                refine absurd hchildren.symm (not_clash hqtold
                  (List.forall_mem_cons.1 hqstold).1 (htold p List.mem_cons_self) hrange
                  (List.forall_mem_cons.1 hrest).1 fun hrange' h => ?_)
                exact (hp hqtold (stops_restText _ _ _) (stops_restText _ _ _)
                  (.inl ⟨hrange', hrange⟩) h.symm).2.symm
      obtain ⟨rfl, hrest⟩ := child_inj hp hqtold (fun hc =>
        ⟨hranges hc p List.mem_cons_self, hqranges hc q List.mem_cons_self⟩) hchildren
      obtain ⟨hps', rfl⟩ := restText_inj hps hqstold
        (fun hc => (List.forall_mem_cons.1 (hranges hc)).2)
        (fun hc => (List.forall_mem_cons.1 (hqranges hc)).2) hrest
      rw [hps']
      exact ⟨rfl, rfl⟩
  | @test _ t => cases t <;> cases hopening
  | _ => cases hopening

theorem Told.reads (hp : p.Told) : Reads p := by
  induction hp with
  | never => exact reads_never
  | combine hranges h ih => exact reads_combine hranges h ih
  | not h ih => exact reads_not h ih
  | quantify hpath h ih => exact reads_quantify hpath h ih
  | test hpath ht => exact reads_test hpath ht

theorem Told.describe_inj (hp : p.Told) (hq : q.Told) (h : p.describe = q.describe) : p = q := by
  have htext : p.describe.toList ++ [] = q.describe.toList ++ [] := by rw [h]
  exact (hp.reads hq .nil .nil (.inr ⟨not_joins_nil, not_joins_nil⟩) htext).1

end RecordFilter.Predicate
