import RecordFilter.Proofs.Query.Compiled

/-!
# What became of the nodes of a query

`sites` goes through a query and a predicate that came of it side by side, and
lists every node of the query with what came of the node. A combinator of one child
and the child come to the same. Nothing is left of a node below one that was given
up, so it counts as given up as well (`outcome_of_mem_sites_never`).

How the predicate came of the query plays no part, so the list can be taken of the
compiled form of a query and of the form that is placed in a layout.
-/

namespace RecordFilter

namespace Predicate

def negand : Predicate → Predicate
  | not body => body
  | _ => never

def quantified : Predicate → Predicate
  | quantify _ _ body => body
  | _ => never

def operands (n : Nat) (p : Predicate) : List Predicate :=
  if n = 1 then [p]
  else match p with
    | combine _ children => children
    | _ => []

theorem operands_combineAll (c : Combinator) (ps : List Predicate) :
    (combineAll c ps).operands ps.length = ps := by
  match ps with
  | [] => rfl
  | [p] => rfl
  | p :: q :: ps =>
      change (if (p :: q :: ps).length = 1 then _ else p :: q :: ps) = _
      rw [if_neg (by simp)]

theorem eq_never_of_mem_operands_never {n : Nat} {p : Predicate} (h : p ∈ never.operands n) :
    p = never := by
  change p ∈ (if n = 1 then [never] else []) at h
  split at h
  · exact List.mem_singleton.1 h
  · cases h

end Predicate

/-- A node of a query, whether it stands in the body of a quantifier, and what
became of it. -/
structure Site where
  inBody : Bool
  node : Query
  outcome : Predicate

namespace Query

mutual

/-- The nodes of a query with what became of each, if the query became a
predicate. -/
def sites (inBody : Bool) : Query → Predicate → List Site
  | negated token body, p =>
    ⟨inBody, negated token body, p⟩ :: sites inBody body p.negand
  | combine c children, p =>
    ⟨inBody, combine c children, p⟩ ::
      sitesAll inBody children (p.operands children.length)
  | quantify path q body, p => ⟨inBody, quantify path q body, p⟩ :: sites true body p.quantified
  | q, p => [⟨inBody, q, p⟩]

def sitesAll (inBody : Bool) : List Query → List Predicate → List Site
  | [], _ => []
  | q :: qs, ps =>
    sites inBody q (ps.head?.getD .never) ++ sitesAll inBody qs ps.tail

end

mutual

/-- Everything below a node that was given up is given up. -/
theorem outcome_of_mem_sites_never (inBody : Bool) (q : Query) {s : Site}
    (h : s ∈ sites inBody q .never) : s.outcome = .never := by
  match q with
  | negated token body =>
      rcases List.mem_cons.1 h with rfl | h
      · rfl
      · exact outcome_of_mem_sites_never inBody body h
  | combine c children =>
      rcases List.mem_cons.1 h with rfl | h
      · rfl
      · exact outcome_of_mem_sitesAll_never inBody children
          (fun _ hp => Predicate.eq_never_of_mem_operands_never hp) h
  | quantify path k body =>
      rcases List.mem_cons.1 h with rfl | h
      · rfl
      · exact outcome_of_mem_sites_never true body h
  | invalid _ | test _ _ | custom _ _ _ =>
      rw [List.mem_singleton.1 h]

theorem outcome_of_mem_sitesAll_never (inBody : Bool) (qs : List Query) {ps : List Predicate}
    (hps : ∀ p ∈ ps, p = .never) {s : Site} (h : s ∈ sitesAll inBody qs ps) :
    s.outcome = .never := by
  match qs with
  | [] => cases h
  | q :: qs =>
      rw [sitesAll, List.mem_append] at h
      rcases h with h | h
      · have hhead : ps.head?.getD .never = .never := by
          cases ps with
          | nil => rfl
          | cons p ps => exact hps p List.mem_cons_self
        rw [hhead] at h
        exact outcome_of_mem_sites_never inBody q h
      · exact outcome_of_mem_sitesAll_never inBody qs
          (fun p hp => hps p (List.mem_of_mem_tail hp)) h

end

end Query

end RecordFilter
