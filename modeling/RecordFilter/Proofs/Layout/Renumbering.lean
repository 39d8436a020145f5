import RecordFilter.Proofs.Assembly.Parallel
import RecordFilter.Proofs.Layout.Longest
import RecordFilter.Proofs.Query.Paths

/-!
# Renumbering columns

If the names of columns and the columns themselves are put into another order, the same
cells stand under other numbers. A path is then placed at the same cell by its new number
(`placePath_comp`), so the two layouts place a predicate side by side: they give up the
same nodes with the same reports, and what they come to differs in the numbers of columns
alone (`parallel_place`). The renumbered predicate asks for the same cells and answers
alike; only the numbers of columns that faults name may differ (`eval_renumber`).

The body of a quantifier names no columns, for it is about the items of a cell.
-/

namespace RecordFilter

def Root.renumber (f : Nat → Nat) : Root → Root
  | record => record
  | index => index
  | column n => column (f n)

def Path.renumber (f : Nat → Nat) (path : Path) : Path := ⟨path.root.renumber f, path.steps⟩

namespace Predicate

mutual

def renumber (f : Nat → Nat) : Predicate → Predicate
  | never => never
  | combine c children => combine c (renumberAll f children)
  | not body => not (renumber f body)
  | quantify path q body => quantify (path.renumber f) q body
  | test path t => test (path.renumber f) t
  | custom name op config => custom name op config

def renumberAll (f : Nat → Nat) : List Predicate → List Predicate
  | [] => []
  | p :: ps => renumber f p :: renumberAll f ps

end

end Predicate

namespace EvalError

def withoutColumn : EvalError → EvalError
  | nullAccess path step found => nullAccess (path.renumber fun _ => 0) step found
  | type operation found => type operation found

end EvalError

structure Scope.Renumbered (f : Nat → Nat) (scope scope' : Scope) : Prop where
  record_eq : scope'.record = scope.record
  index_eq : scope'.index = scope.index
  cell_eq : ∀ n, scope'.cell (f n) = scope.cell n

namespace Path

variable {f : Nat → Nat}

theorem renumber_renumber (g : Nat → Nat) (path : Path) :
    (path.renumber f).renumber g = path.renumber (g ∘ f) := by
  obtain ⟨root, steps⟩ := path
  cases root <;> rfl

theorem follow_renumber (path : Path) (ss : List Step) (v : Option Value) :
    EvalError.AlikeUpTo .withoutColumn ((path.renumber f).follow ss v) (path.follow ss v) := by
  induction ss generalizing v with
  | nil =>
      rw [follow_nil, follow_nil]
      exact EvalError.alikeUpTo_refl _ _
  | cons s ss ih =>
      match v with
      | none | some .null =>
          rw [follow, follow]
          split
          · exact EvalError.alikeUpTo_refl _ _
          · apply EvalError.alikeUpTo_error
            rw [EvalError.withoutColumn, EvalError.withoutColumn, renumber_renumber]
            rfl
      | some (.boolean _) | some (.integer _) | some (.float _) | some (.string _)
      | some (.array _) | some (.object _) => exact ih _

theorem resolve_renumber {scope scope' : Scope} (h : scope.Renumbered f scope')
    (path : Path) :
    EvalError.AlikeUpTo .withoutColumn ((path.renumber f).resolve scope')
      (path.resolve scope) := by
  have hvalue : (path.renumber f).root.value scope' = path.root.value scope := by
    obtain ⟨root, steps⟩ := path
    cases root with
    | record => exact h.record_eq
    | index => exact congrArg (fun i : Position => some (Value.integer i.toInt64)) h.index_eq
    | column n => exact h.cell_eq n
  rw [resolve, resolve, hvalue]
  exact path.follow_renumber path.steps _

end Path

namespace Predicate

variable {f : Nat → Nat}

mutual

/-- A renumbered predicate answers alike where the cells have their new numbers. -/
theorem eval_renumber {scope scope' : Scope} (h : scope.Renumbered f scope')
    (table : HoistTable) (p : Predicate) :
    EvalError.AlikeUpTo .withoutColumn ((p.renumber f).eval table scope')
      (p.eval table scope) := by
  match p with
  | never => exact EvalError.alikeUpTo_refl _ _
  | combine c children => exact evalAll_renumberAll h table c children
  | not body => exact (eval_renumber h table body).map (! ·)
  | quantify path q body =>
      -- Items are asked in scopes of their own, which have no cells.
      exact (path.resolve_renumber h).bind fun v => EvalError.alikeUpTo_refl _ _
  | test path t =>
      rw [renumber, eval, eval, evalTest, evalTest]
      cases t.fetch? table with
      | none => exact EvalError.alikeUpTo_refl _ _
      | some t => exact (path.resolve_renumber h).bind fun v => EvalError.alikeUpTo_refl _ _
  | custom name op config =>
      rw [renumber, eval, eval, h.record_eq, h.index_eq]
      exact EvalError.alikeUpTo_refl _ _

theorem evalAll_renumberAll {scope scope' : Scope} (h : scope.Renumbered f scope')
    (table : HoistTable) (c : Combinator) (ps : List Predicate) :
    EvalError.AlikeUpTo .withoutColumn (evalAll table c (renumberAll f ps) scope')
      (evalAll table c ps scope) := by
  match ps with
  | [] => exact EvalError.alikeUpTo_refl _ _
  | p :: ps =>
      rw [renumberAll, evalAll_cons, evalAll_cons]
      apply (eval_renumber h table p).bind
      intro answer
      split
      · exact evalAll_renumberAll h table c ps
      · exact EvalError.alikeUpTo_refl _ _

end

end Predicate

namespace Layout

section

variable {n : Nat} {names : Fin n → List Step} (σ : Equiv.Perm (Fin n))

/-- The number that a column has if the columns are put in the order of a permutation. -/
def numberIn (c : Nat) : Nat := if h : c < n then σ.symm ⟨c, h⟩ else c

theorem numberIn_apply (k : Fin n) : numberIn σ k = σ.symm k := dif_pos k.isLt

theorem renumbered_ofRow (columns : Fin n → List Value) (row : Position) :
    (Scope.ofRow (List.ofFn columns) row).Renumbered (numberIn σ)
      (Scope.ofRow (List.ofFn (columns ∘ σ)) row) where
  record_eq := rfl
  index_eq := rfl
  cell_eq c := by
    have hcolumn : (List.ofFn (columns ∘ σ))[numberIn σ c]? = (List.ofFn columns)[c]? := by
      rw [List.getElem?_ofFn, List.getElem?_ofFn]
      by_cases hc : c < n
      · rw [numberIn, dif_pos hc, dif_pos (σ.symm ⟨c, hc⟩).isLt, dif_pos hc, Fin.eta,
          Function.comp_apply, σ.apply_symm_apply]
      · rw [numberIn, dif_neg hc, dif_neg hc, dif_neg hc]
    exact congrArg (Option.bind · (·[row.toNat]?)) hcolumn

theorem longest?_comp (hkeys : Function.Injective fun k => (names k).map Step.key)
    (steps : List Step) :
    longest? steps 0 (List.ofFn (names ∘ σ)) =
      (longest? steps 0 (List.ofFn names)).map fun found => (numberIn σ found.1, found.2) := by
  have hkeys' : Function.Injective fun k => ((names ∘ σ) k).map Step.key :=
    hkeys.comp σ.injective
  apply Option.ext
  rintro ⟨column, used⟩
  rw [longest?_ofFn_eq_some_iff hkeys', Option.map_eq_some_iff]
  constructor
  · rintro ⟨k, hk, rfl, rfl⟩
    refine ⟨(σ k, (names (σ k)).length), ?_, ?_⟩
    · exact (longest?_ofFn_eq_some_iff hkeys).2 ⟨σ k, (isLongest_comp _ σ).1 hk, rfl, rfl⟩
    · rw [numberIn_apply, σ.symm_apply_apply]
      rfl
  · rintro ⟨⟨other, length⟩, hfound, heq⟩
    obtain ⟨k, hk, rfl, rfl⟩ := (longest?_ofFn_eq_some_iff hkeys).1 hfound
    cases heq
    obtain ⟨l, rfl⟩ := σ.surjective k
    refine ⟨l, (isLongest_comp _ σ).2 hk, ?_, rfl⟩
    rw [numberIn_apply, σ.symm_apply_apply]

theorem placePath_comp (hkeys : Function.Injective fun k => (names k).map Step.key)
    {path : Path} (hroot : ∀ c, path.root ≠ .column c) :
    placePath ⟨some (List.ofFn (names ∘ σ))⟩ path =
      (placePath ⟨some (List.ofFn names)⟩ path).map (Path.renumber (numberIn σ)) := by
  match path with
  | ⟨.record, []⟩ => rfl
  | ⟨.record, s :: ss⟩ =>
      simp only [placePath, column?, longest?_comp σ hkeys]
      cases longest? (s :: ss) 0 (List.ofFn names) with
      | none => rfl
      | some found => rfl
  | ⟨.index, steps⟩ => rfl
  | ⟨.column c, steps⟩ => exact absurd rfl (hroot c)

theorem parallel_placed (hkeys : Function.Injective fun k => (names k).map Step.key)
    {path : Path} (hroot : ∀ c, path.root ≠ .column c) :
    Assembly.Parallel .same (fun a b => b = a.renumber (numberIn σ))
      (placed ⟨some (List.ofFn names)⟩ path)
      (placed ⟨some (List.ofFn (names ∘ σ))⟩ path) := by
  rw [placed, placed, placePath_comp σ hkeys hroot]
  cases placePath ⟨some (List.ofFn names)⟩ path with
  | error e => exact Assembly.parallel_fail e
  | ok path' => exact Assembly.parallel_pure rfl

mutual

/-- In another order of the columns the same nodes are given up, and the rest has its
columns renumbered. -/
theorem parallel_place (hkeys : Function.Injective fun k => (names k).map Step.key)
    (strict : Bool) (p : Predicate)
    (hroots : p.everyPath fun path => ∀ c, path.root ≠ .column c) :
    Assembly.Parallel .same (fun a b => b = a.renumber (numberIn σ))
      (place ⟨some (List.ofFn names)⟩ strict p)
      (place ⟨some (List.ofFn (names ∘ σ))⟩ strict p) := by
  match p with
  | .never => exact Assembly.parallel_pure rfl
  | .combine c children =>
      rw [place, place]
      exact (parallel_placeAll hkeys strict children hroots).map_image fun _ => rfl
  | .not body =>
      rw [place, place]
      exact (parallel_place hkeys strict body hroots).map_image fun _ => rfl
  | .quantify path q body =>
      rw [place, place]
      exact (parallel_placed σ hkeys hroots.1).map_image fun _ => rfl
  | .test path t =>
      rw [place, place]
      exact (parallel_placed σ hkeys hroots).map_image fun _ => rfl
  | .custom name op config => exact Assembly.parallel_fail _

theorem parallel_placeAll (hkeys : Function.Injective fun k => (names k).map Step.key)
    (strict : Bool) (ps : List Predicate)
    (hroots : Predicate.everyPathAll (fun path => ∀ c, path.root ≠ .column c) ps) :
    Assembly.Parallel .same (fun as bs => bs = Predicate.renumberAll (numberIn σ) as)
      (placeAll ⟨some (List.ofFn names)⟩ strict ps)
      (placeAll ⟨some (List.ofFn (names ∘ σ))⟩ strict ps) := by
  match ps with
  | [] => exact Assembly.parallel_pure rfl
  | p :: ps =>
      rw [placeAll, placeAll]
      apply ((parallel_place hkeys strict p hroots.1).rescue rfl strict).bind
      rintro a _ rfl
      exact (parallel_placeAll hkeys strict ps hroots.2).map_image fun _ => rfl

end

end

end Layout

end RecordFilter
