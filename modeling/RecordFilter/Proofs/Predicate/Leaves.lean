import RecordFilter.Proofs.Layout.Image
import RecordFilter.Proofs.Query.Paths

/-!
# What a predicate asks of its scope

The leaves of a predicate are the nodes that are asked in the scope of the predicate
itself: its tests, its quantifiers and its custom operators. Combinators and negations only
put the answers of leaves together, and the body of a quantifier is asked in the scopes of
items, which have nothing of the scope around them. So two scopes in which all leaves
answer the same give the same answer, faults included (`eval_eq_of_leaves`).

A test and a quantifier see of a scope what their path leads to (`eval_eq_of_resolve`); a
custom operator has no path, for it is given the whole record. In a layout a leaf keeps all
but its path, and what has no path has no place (`leaves_image`). What is left of a path in
its place is the end of its steps (`cases_of_placePath`).
-/

namespace RecordFilter

namespace Predicate

/-- A node that is asked in the scope of the predicate around it. -/
inductive Leaf where
  | quantify (path : Path) (q : Quantifier) (body : Predicate)
  | test (path : Path) (t : Test Slot Slot)
  | custom (name : String) (op : CustomOperator) (config : Value)

namespace Leaf

def predicate : Leaf → Predicate
  | quantify path q body => .quantify path q body
  | test path t => .test path t
  | custom name op config => .custom name op config

def path? : Leaf → Option Path
  | quantify path _ _ => some path
  | test path _ => some path
  | custom _ _ _ => none

def body? : Leaf → Option Predicate
  | quantify _ _ body => some body
  | _ => none

def withPath (path : Path) : Leaf → Leaf
  | quantify _ q body => quantify path q body
  | test _ t => test path t
  | custom name op config => custom name op config

@[simp] theorem body?_withPath (leaf : Leaf) (path : Path) :
    (leaf.withPath path).body? = leaf.body? := by
  cases leaf <;> rfl

theorem path?_withPath {leaf : Leaf} {path : Path} (h : leaf.path? = some path) (other : Path) :
    (leaf.withPath other).path? = some other := by
  cases leaf with
  | quantify _ _ _ | test _ _ => rfl
  | custom _ _ _ => cases h

end Leaf

mutual

def leaves : Predicate → List Leaf
  | never => []
  | combine _ children => leavesAll children
  | not body => body.leaves
  | quantify path q body => [.quantify path q body]
  | test path t => [.test path t]
  | custom name op config => [.custom name op config]

def leavesAll : List Predicate → List Leaf
  | [] => []
  | p :: ps => p.leaves ++ leavesAll ps

end

/-- The paths of a predicate outside of the bodies of quantifiers. -/
def outerPaths (p : Predicate) : List Path := p.leaves.filterMap Leaf.path?

theorem mem_outerPaths {p : Predicate} {leaf : Leaf} {path : Path} (hleaf : leaf ∈ p.leaves)
    (hpath : leaf.path? = some path) : path ∈ p.outerPaths :=
  List.mem_filterMap.2 ⟨leaf, hleaf, hpath⟩

section Scopes

variable {table : HoistTable} {scope scope' : Scope}

theorem Leaf.eval_eq_of_resolve {leaf : Leaf} {path : Path} (hpath : leaf.path? = some path)
    (h : path.resolve scope = path.resolve scope') :
    leaf.predicate.eval table scope = leaf.predicate.eval table scope' := by
  cases leaf with
  | quantify _ q body =>
      cases hpath
      rw [predicate, eval, eval, h]
  | test _ t =>
      cases hpath
      rw [predicate, eval, eval, evalTest, evalTest, h]
  | custom _ _ _ => cases hpath

mutual

theorem eval_eq_of_leaves (p : Predicate)
    (h : ∀ leaf ∈ p.leaves,
      leaf.predicate.eval table scope = leaf.predicate.eval table scope') :
    p.eval table scope = p.eval table scope' := by
  match p with
  | never => rfl
  | combine c children => exact evalAll_eq_of_leavesAll c children h
  | not body => rw [eval, eval, eval_eq_of_leaves body h]
  | quantify path q body => exact h (.quantify path q body) List.mem_cons_self
  | test path t => exact h (.test path t) List.mem_cons_self
  | custom name op config => exact h (.custom name op config) List.mem_cons_self

theorem evalAll_eq_of_leavesAll (c : Combinator) (ps : List Predicate)
    (h : ∀ leaf ∈ leavesAll ps,
      leaf.predicate.eval table scope = leaf.predicate.eval table scope') :
    evalAll table c ps scope = evalAll table c ps scope' := by
  match ps with
  | [] => rfl
  | p :: ps =>
      rw [leavesAll, List.forall_mem_append] at h
      rw [evalAll, evalAll, eval_eq_of_leaves p h.1, evalAll_eq_of_leavesAll c ps h.2]

end

/-- A predicate without custom operators answers the same in two scopes in which the paths
of its leaves lead to the same. -/
theorem eval_eq_of_resolve (p : Predicate)
    (hcustom : ∀ name op config, .custom name op config ∉ p.leaves)
    (h : ∀ path ∈ p.outerPaths, path.resolve scope = path.resolve scope') :
    p.eval table scope = p.eval table scope' := by
  apply eval_eq_of_leaves
  intro leaf hleaf
  cases hpath : leaf.path? with
  | some path => exact Leaf.eval_eq_of_resolve hpath (h path (mem_outerPaths hleaf hpath))
  | none =>
      cases leaf with
      | quantify _ _ _ | test _ _ => cases hpath
      | custom name op config => exact absurd hleaf (hcustom name op config)

end Scopes

section Paths

variable {P : Path → Prop}

mutual

theorem everyPath_iff_leaves (p : Predicate) :
    p.everyPath P ↔ ∀ leaf ∈ p.leaves, leaf.predicate.everyPath P := by
  match p with
  | never => exact iff_of_true trivial (List.forall_mem_nil _)
  | combine _ children => exact everyPathAll_iff_leavesAll children
  | not body => exact everyPath_iff_leaves body
  | quantify _ _ _ | test _ _ | custom _ _ _ =>
      rw [leaves, List.forall_mem_singleton]
      rfl

theorem everyPathAll_iff_leavesAll (ps : List Predicate) :
    everyPathAll P ps ↔ ∀ leaf ∈ leavesAll ps, leaf.predicate.everyPath P := by
  match ps with
  | [] => exact iff_of_true trivial (List.forall_mem_nil _)
  | p :: ps =>
      rw [leavesAll, List.forall_mem_append, ← everyPath_iff_leaves p,
        ← everyPathAll_iff_leavesAll ps]
      rfl

end

theorem Leaf.everyPath_body {leaf : Leaf} {body : Predicate} (h : leaf.predicate.everyPath P)
    (hbody : leaf.body? = some body) : body.everyPath P := by
  cases leaf with
  | quantify _ _ _ =>
      cases hbody
      exact h.2
  | test _ _ | custom _ _ _ => cases hbody

end Paths

end Predicate

namespace Layout

variable {layout : Layout}

/-- A path that does not start at the record stays as it is, and one that does goes on from a
cell with the steps that are left. -/
theorem cases_of_placePath {path path' : Path} (h : layout.placePath path = .ok path') :
    (path' = path ∧ path.root ≠ .record) ∨
      ∃ column used, path' = ⟨.column column, path.steps.drop used⟩ := by
  match path with
  | ⟨.record, []⟩ => cases h
  | ⟨.record, s :: ss⟩ =>
      simp only [placePath] at h
      split at h
      · next column used _ =>
          cases h
          exact .inr ⟨column, used, rfl⟩
      · cases h
  | ⟨.index, steps⟩ | ⟨.column n, steps⟩ =>
      cases h
      exact .inl ⟨rfl, nofun⟩

mutual

/-- The leaves of an image are leaves of the predicate with their paths placed. -/
theorem leaves_image (p : Predicate) :
    ∀ leaf ∈ (Predicate.orNever (layout.image? p)).leaves, ∃ source ∈ p.leaves,
      ∃ path path', source.path? = some path ∧ layout.placePath path = .ok path' ∧
        leaf = source.withPath path' := by
  match p with
  | .never | .custom _ _ _ => exact List.forall_mem_nil _
  | .combine _ children => exact leavesAll_images children
  | .not body =>
      have hbody := leaves_image body
      rw [image?]
      cases himage : layout.image? body with
      | error e => exact List.forall_mem_nil _
      | ok body' =>
          rw [himage] at hbody
          exact hbody
  | .quantify path _ _ | .test path _ =>
      rw [image?]
      cases hpath : layout.placePath path with
      | error e => exact List.forall_mem_nil _
      | ok path' =>
          intro leaf hleaf
          rw [List.mem_singleton.1 hleaf]
          exact ⟨_, List.mem_cons_self, path, path', rfl, hpath, rfl⟩

theorem leavesAll_images (ps : List Predicate) :
    ∀ leaf ∈ Predicate.leavesAll (layout.images ps), ∃ source ∈ Predicate.leavesAll ps,
      ∃ path path', source.path? = some path ∧ layout.placePath path = .ok path' ∧
        leaf = source.withPath path' := by
  match ps with
  | [] => exact List.forall_mem_nil _
  | p :: ps =>
      intro leaf hleaf
      rw [images, Predicate.leavesAll, List.mem_append] at hleaf
      rcases hleaf with hleaf | hleaf
      · obtain ⟨source, hsource, hplaced⟩ := leaves_image p leaf hleaf
        exact ⟨source, List.mem_append_left _ hsource, hplaced⟩
      · obtain ⟨source, hsource, hplaced⟩ := leavesAll_images ps leaf hleaf
        exact ⟨source, List.mem_append_right _ hsource, hplaced⟩

end

theorem everyPath_image {P : Path → Prop}
    (hplace : ∀ path path', layout.placePath path = .ok path' → P path → P path')
    {p : Predicate} (h : p.everyPath P) : (Predicate.orNever (layout.image? p)).everyPath P := by
  rw [Predicate.everyPath_iff_leaves] at h ⊢
  intro leaf hleaf
  obtain ⟨source, hsource, path, path', hpath, hplaced, rfl⟩ := leaves_image p leaf hleaf
  have hpaths := h source hsource
  cases source with
  | quantify _ _ _ =>
      cases hpath
      exact ⟨hplace _ _ hplaced hpaths.1, hpaths.2⟩
  | test _ _ =>
      cases hpath
      exact hplace _ _ hplaced hpaths
  | custom _ _ _ => cases hpath

end Layout

end RecordFilter
