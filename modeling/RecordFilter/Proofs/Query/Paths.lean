import RecordFilter.Proofs.Query.Compiled
import RecordFilter.Proofs.Query.Node

/-!
# The paths of a query

`everyPath P` says that all paths of a query, or of a predicate, satisfy `P`,
those in bodies of quantifiers included. Compilation takes no path from anywhere
but the query (`Query.everyPath_predicate`), and a query has no paths but those
that its expression spells (`Query.everyPath_read`). So what holds of every path
that can be read holds all over a compiled expression, for example that it sets
out from the record or from its position.
-/

namespace RecordFilter

theorem Path.root_of_read? {chain : Bool} {raw : String} {path : Path}
    (h : read? chain raw = some path) : path.root = .record ∨ path.root = .index := by
  rw [read?] at h
  split at h
  · cases h
    exact .inl rfl
  · split at h
    · cases h
      exact .inr rfl
    · obtain ⟨cs, -, rfl⟩ := Option.map_eq_some_iff.1 h
      exact .inl rfl

namespace Predicate

mutual

def everyPath (P : Path → Prop) : Predicate → Prop
  | never => True
  | combine _ children => everyPathAll P children
  | not body => body.everyPath P
  | quantify path _ body => P path ∧ body.everyPath P
  | test path _ => P path
  | custom _ _ _ => True

def everyPathAll (P : Path → Prop) : List Predicate → Prop
  | [] => True
  | p :: ps => p.everyPath P ∧ everyPathAll P ps

end

theorem everyPath_combineAll {P : Path → Prop} {c : Combinator} {ps : List Predicate}
    (h : everyPathAll P ps) : (combineAll c ps).everyPath P := by
  match ps with
  | [] => exact h
  | [p] => exact h.1
  | _ :: _ :: _ => exact h

theorem everyPathAll_of_combineAll {P : Path → Prop} {c : Combinator} {ps : List Predicate}
    (h : (combineAll c ps).everyPath P) : everyPathAll P ps := by
  match ps with
  | [] => exact h
  | [p] => exact ⟨h, trivial⟩
  | _ :: _ :: _ => exact h

end Predicate

namespace Query

mutual

def everyPath (P : Path → Prop) : Query → Prop
  | invalid _ => True
  | negated _ body => body.everyPath P
  | combine _ children => everyPathAll P children
  | quantify path _ body => P path ∧ body.everyPath P
  | test path _ => P path
  | custom _ _ _ => True

def everyPathAll (P : Path → Prop) : List Query → Prop
  | [] => True
  | q :: qs => q.everyPath P ∧ everyPathAll P qs

end

variable {P : Path → Prop}

theorem everyPath_getElem? {qs : List Query} (h : everyPathAll P qs) {i : Nat} {q : Query}
    (hq : qs[i]? = some q) : q.everyPath P := by
  induction qs generalizing i with
  | nil => cases hq
  | cons first rest ih =>
      cases i with
      | zero =>
          cases hq
          exact h.1
      | succ i => exact ih h.2 hq

mutual

theorem everyPath_predicate (q : Query) (slot : Slot) (h : q.everyPath P) :
    (q.predicate slot).everyPath P := by
  match q with
  | invalid _ => trivial
  | negated _ body =>
      rw [predicate]
      split
      · trivial
      · exact everyPath_predicate body slot h
  | combine c children =>
      exact Predicate.everyPath_combineAll (everyPathAll_predicates children slot h)
  | quantify path k body => exact ⟨h.1, everyPath_predicate body slot h.2⟩
  | test path t => exact h
  | custom _ _ _ => trivial

theorem everyPathAll_predicates (qs : List Query) (slot : Slot) (h : everyPathAll P qs) :
    Predicate.everyPathAll P (predicates slot qs) := by
  match qs with
  | [] => trivial
  | q :: qs => exact ⟨everyPath_predicate q slot h.1, everyPathAll_predicates qs _ h.2⟩

end

theorem everyPath_ofOperator {chain : Bool} {op : Operator} {e : Expression}
    {children : List Query} {q : Query}
    (hP : ∀ raw path, Path.read? chain raw = some path → P path)
    (hchildren : everyPathAll P children) (h : ofOperator chain op e children = .ok q) :
    q.everyPath P := by
  have hleft : ∀ path, pathOf chain e.token e.left? = .ok path → P path := by
    intro path hpath
    obtain ⟨raw, hread⟩ := exists_of_pathOf hpath
    exact hP raw path hread
  rcases ofOperator_cases h with
    ⟨c, rfl, -⟩ | ⟨path, k, body, rfl, hpath, hbody⟩ | ⟨path, t, rfl, hpath, -⟩
  · exact hchildren
  · exact ⟨hleft path hpath, everyPath_getElem? hchildren hbody⟩
  · exact hleft path hpath

theorem everyPath_ofNode {options : CompileOptions} {name : String} {e : Expression}
    {children : List Query} {q : Query}
    (hP : ∀ raw path, Path.read? options.chain raw = some path → P path)
    (hchildren : everyPathAll P children) (h : ofNode options name e children = .ok q) :
    q.everyPath P := by
  unfold ofNode at h
  split at h
  · cases h
    trivial
  · split at h
    · exact everyPath_ofOperator hP hchildren h
    · cases h

mutual

theorem everyPath_read {options : CompileOptions}
    (hP : ∀ raw path, Path.read? options.chain raw = some path → P path) (v : Value) :
    (read options v).everyPath P := by
  match v with
  | .array (.string token :: operands) =>
      have hchildren := everyPathAll_readAll hP operands
      rw [read, ofExpression]
      cases h : ofNode options (Token.resolve token).name ⟨token, operands⟩
          (readAll options operands) with
      | error e => trivial
      | ok q =>
          have hq := everyPath_ofNode hP hchildren h
          simp only
          split
          · exact hq
          · exact hq
  | .null | .boolean _ | .integer _ | .float _ | .string _ | .object _ | .array []
  | .array (.null :: _) | .array (.boolean _ :: _) | .array (.integer _ :: _)
  | .array (.float _ :: _) | .array (.array _ :: _) | .array (.object _ :: _) => trivial

theorem everyPathAll_readAll {options : CompileOptions}
    (hP : ∀ raw path, Path.read? options.chain raw = some path → P path) (vs : List Value) :
    everyPathAll P (readAll options vs) := by
  match vs with
  | [] => trivial
  | v :: vs => exact ⟨everyPath_read hP v, everyPathAll_readAll hP vs⟩

end

/-- The compiled form of an expression names no columns: its paths set out from the record or
from its position. -/
theorem no_column_predicate_read (options : CompileOptions) (v : Value) (slot : Slot) :
    ((read options v).predicate slot).everyPath fun path => ∀ n, path.root ≠ .column n := by
  apply everyPath_predicate
  apply everyPath_read
  intro raw path hread n
  rcases Path.root_of_read? hread with hroot | hroot <;> rw [hroot] <;> nofun

end Query

end RecordFilter
