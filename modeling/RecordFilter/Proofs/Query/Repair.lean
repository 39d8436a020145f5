import Mathlib.Data.List.Forall2
import RecordFilter.Query.Meaning

/-!
# Repairing a query

A query with invalid nodes is repaired by putting queries without any in their
places. `RepairedTo` relates a query to what it may be repaired to. Only outermost
invalid nodes have places in a query, since an invalid node is a leaf.

Where a query answers true, so does a repaired one, unless it faults
(`widens_of_repairedTo`): an invalid node is false, which no repair can fall below,
and no answer turns round on the way up. A negation could turn it, but it is false
itself where something below it is invalid, and otherwise nothing below it is
repaired (`eq_of_repairedTo`).

A repaired query may ask more or less than the query does, because it settles a
combinator or a quantifier at another place. So it may fault where the query does
not, and the statement has to leave this open at every node.
-/

namespace RecordFilter

def Widens (x y : Except EvalError Bool) : Prop :=
  x = .ok true → ∀ answer, y = .ok answer → answer = true

theorem widens_refl (x : Except EvalError Bool) : Widens x x := by
  intro hx answer hy
  rw [hx] at hy
  cases hy
  rfl

theorem widens_false (y : Except EvalError Bool) : Widens (.ok false) y := by
  intro h
  cases h

/-- Asking in a wider way settles a question in a wider way, for either neutral
answer. -/
theorem settle_widens {α β : Type} (neutral : Bool) {ask : α → Except EvalError Bool}
    {ask' : β → Except EvalError Bool} {as : List α} {bs : List β}
    (h : List.Forall₂ (fun a b => Widens (ask a) (ask' b)) as bs) :
    Widens (settle neutral ask as) (settle neutral ask' bs) := by
  induction h with
  | nil => exact widens_refl _
  | @cons a b as bs hhead _ ih =>
      intro hfirst answer hsecond
      obtain ⟨x, ha, hx⟩ := exists_of_settle_cons hfirst
      obtain ⟨y, hb, hy⟩ := exists_of_settle_cons hsecond
      have hxy : x = true → y = true := by
        rintro rfl
        exact hhead ha y hb
      rcases hx with ⟨rfl, hrest⟩ | ⟨hx, rfl⟩
      · rcases hy with ⟨-, hy⟩ | ⟨hy, rfl⟩
        · exact ih hrest answer hy
        · -- The second is settled by what is not neutral; false would be neutral here.
          cases y with
          | true => rfl
          | false => exact absurd (by simpa using hxy) hy
      · -- The first is settled by true, so true is not neutral.
        rcases hy with ⟨rfl, -⟩ | ⟨-, rfl⟩
        · exact absurd (hxy rfl).symm hx
        · exact hxy rfl

namespace Query

/-- What a query becomes if each of its invalid nodes is replaced by a query without
any. -/
inductive RepairedTo : Query → Query → Prop where
  | intact {q : Query} (h : q.isDegraded = false) : RepairedTo q q
  | replaced {error : CompileError} {r : Query} (h : r.isDegraded = false) :
    RepairedTo (invalid error) r
  | negated {token : String} {q r : Query} (h : RepairedTo q r) :
    RepairedTo (negated token q) (negated token r)
  | combine {c : Combinator} {qs rs : List Query} (h : List.Forall₂ RepairedTo qs rs) :
    RepairedTo (combine c qs) (combine c rs)
  | quantify {path : Path} {k : Quantifier} {q r : Query} (h : RepairedTo q r) :
    RepairedTo (quantify path k q) (quantify path k r)

mutual

theorem isDegraded_of_repairedTo {q r : Query} (h : q.RepairedTo r) : r.isDegraded = false := by
  match q, h with
  | _, .intact hq => exact hq
  | _, .replaced hr => exact hr
  | negated _ body, .negated hbody => rw [isDegraded, isDegraded_of_repairedTo hbody]
  | combine _ children, .combine hchildren =>
      rw [isDegraded, anyDegraded_of_repairedTo hchildren]
  | quantify _ _ body, .quantify hbody => rw [isDegraded, isDegraded_of_repairedTo hbody]

theorem anyDegraded_of_repairedTo {qs rs : List Query} (h : List.Forall₂ RepairedTo qs rs) :
    anyDegraded rs = false := by
  match qs, h with
  | _, .nil => rfl
  | q :: qs, .cons hhead htail =>
      rw [anyDegraded, isDegraded_of_repairedTo hhead, anyDegraded_of_repairedTo htail]
      rfl

end

mutual

theorem eq_of_repairedTo {q r : Query} (h : q.RepairedTo r) (hq : q.isDegraded = false) :
    r = q := by
  match q, h with
  | _, .intact _ => rfl
  | _, .replaced _ => cases hq
  | negated _ body, .negated hbody => rw [eq_of_repairedTo hbody hq]
  | combine _ children, .combine hchildren => rw [eq_of_forall_repairedTo hchildren hq]
  | quantify _ _ body, .quantify hbody => rw [eq_of_repairedTo hbody hq]

theorem eq_of_forall_repairedTo {qs rs : List Query} (h : List.Forall₂ RepairedTo qs rs)
    (hqs : anyDegraded qs = false) : rs = qs := by
  match qs, h with
  | _, .nil => rfl
  | q :: qs, .cons hhead htail =>
      rw [anyDegraded, Bool.or_eq_false_iff] at hqs
      rw [eq_of_repairedTo hhead hqs.1, eq_of_forall_repairedTo htail hqs.2]

end

mutual

/-- A repaired query is true wherever the query is, unless it faults. -/
theorem widens_of_repairedTo {q r : Query} (h : q.RepairedTo r) (scope : Scope) :
    Widens (q.eval scope) (r.eval scope) := by
  match q, h with
  | _, .intact _ => exact widens_refl _
  | _, .replaced _ => exact widens_false _
  | negated token body, .negated hbody =>
      cases hd : body.isDegraded with
      | true =>
          rw [eval, if_pos hd]
          exact widens_false _
      | false =>
          rw [eq_of_repairedTo hbody hd]
          exact widens_refl _
  | combine c children, .combine hchildren =>
      rw [eval, eval, evalAll_eq_settle, evalAll_eq_settle]
      exact settle_widens _ (forall_widens_of_repairedTo hchildren scope)
  | quantify path k body, .quantify hbody =>
      rw [eval, eval]
      cases path.resolve scope with
      | error e => exact widens_refl _
      | ok v =>
          -- Both scan the items of one array, if there is an array at all.
          change Widens (k.scan body.eval v) (k.scan _ v)
          unfold Quantifier.scan
          split
          · apply settle_widens
            rw [List.forall₂_same]
            intro item _
            exact widens_of_repairedTo hbody _
          · exact widens_refl _

theorem forall_widens_of_repairedTo {qs rs : List Query} (h : List.Forall₂ RepairedTo qs rs)
    (scope : Scope) : List.Forall₂ (fun q r => Widens (q.eval scope) (r.eval scope)) qs rs := by
  match qs, h with
  | _, .nil => exact .nil
  | q :: qs, .cons hhead htail =>
      exact .cons (widens_of_repairedTo hhead scope) (forall_widens_of_repairedTo htail scope)

end

end Query

end RecordFilter
