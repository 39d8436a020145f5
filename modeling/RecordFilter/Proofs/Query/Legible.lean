import RecordFilter.Proofs.Predicate.Leaves
import RecordFilter.Proofs.Predicate.Notation
import RecordFilter.Proofs.Query.Duality

/-!
# What is compiled can be read back

A predicate is legible if its text tells its canonical form, given that its paths are legible
(`Predicate.Legible.told_canonical`): its literals have no floats in them, it asks no custom
operator, and its combinators have two children or more. An expression without floats of which
no node goes to a custom operator compiles to such a predicate (`Query.legible_read`,
`Query.Legible.predicate`), and placing it in a layout leaves it legible
(`Predicate.Legible.image`).

The literals in its table are prepared as the expression says (`Query.Legible.prepared`), so
that the set of some members and the pattern of a source are in the table, and no others.
-/

namespace RecordFilter

inductive Hoisted.Prepared : Hoisted → Prop
  | members (items : List Value) : Prepared (.members (.ofItems items))
  | pattern {source : String} {ignoreCase : Bool} {p : Pattern}
      (h : Pattern.read source ignoreCase = .ok p) : Prepared (.pattern p)

namespace Test

/-- The literals of a test have no floats in them, and only the bounds of a range may be arrays
or objects. -/
def Legible {μ ρ : Type} : Test μ ρ → Prop
  | compare _ literal => literal.isScalar = true ∧ literal.isFloatFree = true
  | range _ min max => min.isFloatFree = true ∧ max.isFloatFree = true
  | text _ needle => needle.isScalar = true ∧ needle.isFloatFree = true
  | _ => True

theorem Legible.atSlot {t : Test (List Value) Pattern} (h : t.Legible) (slot : Slot) :
    (t.atSlot slot).Legible := by
  cases t <;> exact h

theorem Legible.told_normalize {t : Test Slot Slot} (h : t.Legible) : t.normalize.Told := by
  have hscalar : ∀ {v : Value}, v.isScalar = true ∧ v.isFloatFree = true → v.Told := by
    rintro v ⟨hscalar, hfree⟩
    refine ⟨hfree, ?_⟩
    cases v with
    | array _ | object _ => cases hscalar
    | _ => rfl
  have hnormal : ∀ {v : Value}, v.isFloatFree = true → v.normalize.Told := fun hfree =>
    ⟨Value.isFloatFree_normalize hfree, Value.normalize_normalize _⟩
  cases t with
  | compare _ _ | text _ _ => exact hscalar h
  | range _ _ _ => exact ⟨hnormal h.1, hnormal h.2⟩
  | _ => trivial

end Test

namespace Predicate

/-- Predicates whose texts tell what they are, up to ranges among conjuncts and the order of
fields in literals. Paths have no part in this. -/
inductive Legible : Predicate → Prop
  | never : Legible never
  | combine {c : Combinator} {p p' : Predicate} {ps : List Predicate}
      (h : ∀ q ∈ p :: p' :: ps, Legible q) : Legible (combine c (p :: p' :: ps))
  | not {body : Predicate} (h : Legible body) : Legible (not body)
  | quantify {path : Path} {q : Quantifier} {body : Predicate} (h : Legible body) :
      Legible (quantify path q body)
  | test {path : Path} {t : Test Slot Slot} (ht : t.Legible) : Legible (test path t)

theorem everyPathAll_iff {P : Path → Prop} {ps : List Predicate} :
    everyPathAll P ps ↔ ∀ p ∈ ps, p.everyPath P := by
  induction ps with
  | nil => exact iff_of_true trivial (List.forall_mem_nil _)
  | cons p ps ih => rw [everyPathAll, ih, List.forall_mem_cons]

theorem legible_combineAll {c : Combinator} {ps : List Predicate} (hne : ps ≠ [])
    (h : ∀ p ∈ ps, p.Legible) : (combineAll c ps).Legible := by
  match ps with
  | [] => exact absurd rfl hne
  | [p] => exact h p List.mem_cons_self
  | _ :: _ :: _ => exact .combine h

/-! ### Canonical forms -/

theorem told_conjuncts {c : Combinator} {p : Predicate} (hp : p.Told) :
    ∀ q ∈ conjuncts c p, q.Told ∧ (c = .all → q.isRange = false) := by
  unfold conjuncts
  split
  · cases hp with
    | test hpath ht =>
        intro q hq
        simp only [List.mem_cons, List.not_mem_nil, or_false] at hq
        rcases hq with rfl | rfl
        · exact ⟨.test hpath ht.1, fun _ => rfl⟩
        · exact ⟨.test hpath ht.2, fun _ => rfl⟩
  · next hrange =>
      intro q hq
      rw [List.mem_singleton.1 hq]
      refine ⟨hp, fun hc => ?_⟩
      cases hisRange : p.isRange with
      | false => rfl
      | true =>
          cases p with
          | test path t =>
              obtain ⟨interval, min, max, rfl⟩ := Test.exists_of_isRange hisRange
              exact (hrange path interval min max hc rfl).elim
          | _ => cases hisRange

theorem mem_canonicalAll {c : Combinator} {ps : List Predicate} {q : Predicate} :
    q ∈ canonicalAll c ps ↔ ∃ p ∈ ps, q ∈ conjuncts c p.canonical := by
  induction ps with
  | nil => simp [canonicalAll]
  | cons p ps ih =>
      rw [canonicalAll, List.mem_append, ih]
      simp only [List.mem_cons, exists_eq_or_imp]

theorem length_le_canonicalAll (c : Combinator) (ps : List Predicate) :
    ps.length ≤ (canonicalAll c ps).length := by
  induction ps with
  | nil => exact Nat.zero_le _
  | cons p ps ih =>
      obtain ⟨first, rest, hconjuncts, -⟩ := describe_conjuncts c p.canonical
      rw [canonicalAll, hconjuncts, List.length_append, List.length_cons, List.length_cons]
      omega

theorem told_combine {c : Combinator} {ps : List Predicate} (hlength : 2 ≤ ps.length)
    (h : ∀ p ∈ ps, p.Told ∧ (c = .all → p.isRange = false)) : (combine c ps).Told := by
  match ps with
  | [] | [_] => simp at hlength
  | _ :: _ :: _ => exact .combine (fun hc p hp => (h p hp).2 hc) fun p hp => (h p hp).1

theorem Legible.told_canonical {p : Predicate} (hp : p.Legible)
    (hpaths : p.everyPath Path.Legible) : p.canonical.Told := by
  induction hp with
  | never => exact .never
  | @combine c p p' ps h ih =>
      have hlength : ps.length + 2 ≤ (canonicalAll c (p :: p' :: ps)).length :=
        length_le_canonicalAll c (p :: p' :: ps)
      refine told_combine ((Nat.le_add_left 2 _).trans hlength) fun q hq => ?_
      obtain ⟨child, hchild, hq⟩ := mem_canonicalAll.1 hq
      exact told_conjuncts (ih child hchild (everyPathAll_iff.1 hpaths child hchild)) q hq
  | not h ih => exact .not (ih hpaths)
  | quantify h ih => exact .quantify hpaths.1 (ih hpaths.2)
  | test ht => exact .test hpaths ht.told_normalize

/-! ### Layouts -/

theorem Legible.image (layout : Layout) {p : Predicate} (hp : p.Legible) :
    (orNever (layout.image? p)).Legible := by
  have himages : ∀ ps : List Predicate, (∀ p ∈ ps, (orNever (layout.image? p)).Legible) →
      ∀ p ∈ layout.images ps, p.Legible := by
    intro ps h
    induction ps with
    | nil => exact List.forall_mem_nil _
    | cons p ps ih =>
        rw [List.forall_mem_cons] at h
        exact List.forall_mem_cons.2 ⟨h.1, ih h.2⟩
  induction hp with
  | never => exact .never
  | combine h ih => exact .combine (himages _ ih)
  | @not body h ih =>
      rw [Layout.image?]
      cases himage : layout.image? body with
      | error e => exact .never
      | ok body' =>
          rw [himage] at ih
          exact .not ih
  | @quantify path _ _ h ih =>
      rw [Layout.image?]
      cases layout.placePath path with
      | error e => exact .never
      | ok path' => exact .quantify h
  | @test path t ht =>
      rw [Layout.image?]
      cases layout.placePath path with
      | error e => exact .never
      | ok path' => exact .test ht

end Predicate

namespace Query

mutual

def isBuiltIn : Query → Bool
  | invalid _ => true
  | negated _ body => body.isBuiltIn
  | combine _ children => allBuiltIn children
  | quantify _ _ body => body.isBuiltIn
  | test _ _ => true
  | custom _ _ _ => false

def allBuiltIn : List Query → Bool
  | [] => true
  | q :: qs => q.isBuiltIn && allBuiltIn qs

end

theorem allBuiltIn_iff {qs : List Query} :
    allBuiltIn qs = true ↔ ∀ q ∈ qs, q.isBuiltIn = true := by
  induction qs with
  | nil => exact iff_of_true rfl (List.forall_mem_nil _)
  | cons q qs ih => rw [allBuiltIn, Bool.and_eq_true, ih, List.forall_mem_cons]

/-- Queries that compile to legible predicates and prepared literals. -/
inductive Legible : Query → Prop
  | invalid (error : CompileError) : Legible (invalid error)
  | negated {token : String} {body : Query} (h : Legible body) : Legible (negated token body)
  | combine {c : Combinator} {children : List Query} (hne : children ≠ [])
      (h : ∀ q ∈ children, Legible q) : Legible (combine c children)
  | quantify {path : Path} {k : Quantifier} {body : Query} (h : Legible body) :
      Legible (quantify path k body)
  | test {path : Path} {t : Test (List Value) Pattern} (ht : t.Legible)
      (hprepared : ∀ entry ∈ t.hoisted, entry.Prepared) : Legible (test path t)

/-! ### Reading -/

theorem legible_testOf {op : Operator} {token : String} {right : Option Value}
    {t : Test (List Value) Pattern} (hright : ∀ v ∈ right, v.isFloatFree = true)
    (h : testOf op token right = .ok t) :
    t.Legible ∧ ∀ entry ∈ t.hoisted, entry.Prepared := by
  cases op with
  | compare c =>
      simp only [testOf] at h
      split at h
      · next literal hliteral =>
          cases h
          obtain ⟨hsome, hscalar⟩ := Option.filter_eq_some_iff.1 hliteral
          exact ⟨⟨hscalar, hright literal hsome⟩, List.forall_mem_nil _⟩
      · cases h
  | member =>
      cases right with
      | none => cases h
      | some v =>
          cases v with
          | array items =>
              cases h
              exact ⟨trivial, List.forall_mem_singleton.2 (.members items)⟩
          | _ => cases h
  | range interval =>
      cases right with
      | none => cases h
      | some v =>
          cases v with
          | array bounds =>
              rcases bounds with _ | ⟨min, _ | ⟨max, rest⟩⟩ <;> cases h
              have hbounds := hright _ rfl
              rw [Value.isFloatFree, Value.isFloatFreeItems_iff, List.forall_mem_cons,
                List.forall_mem_cons] at hbounds
              exact ⟨⟨hbounds.1, hbounds.2.1⟩, List.forall_mem_nil _⟩
          | _ => cases h
  | text test =>
      simp only [testOf] at h
      split at h
      · next needle hneedle =>
          cases h
          obtain ⟨hsome, hisNeedle⟩ := Option.filter_eq_some_iff.1 hneedle
          have hscalar : needle.isScalar = true := by
            cases needle with
            | string _ => rfl
            | _ => exact (Bool.and_eq_true_iff.1 hisNeedle).2
          exact ⟨⟨hscalar, hright needle hsome⟩, List.forall_mem_nil _⟩
      · cases h
  | regexp ignoreCase =>
      cases right with
      | none => cases h
      | some v =>
          cases v with
          | string source =>
              simp only [testOf] at h
              split at h
              · next hread =>
                  cases h
                  exact ⟨trivial, List.forall_mem_singleton.2 (.pattern hread)⟩
              · cases h
          | _ => cases h
  | truthy | falsy | typeTest test =>
      cases h
      exact ⟨trivial, List.forall_mem_nil _⟩
  | combine c | quantify q => cases h

theorem legible_ofOperator {chain : Bool} {op : Operator} {e : Expression}
    {children : List Query} {q : Query} (hoperands : ∀ v ∈ e.operands, v.isFloatFree = true)
    (hchildren : ∀ child ∈ children, child.isBuiltIn = true → child.Legible)
    (h : ofOperator chain op e children = .ok q) (hbuiltIn : q.isBuiltIn = true) :
    q.Legible := by
  have hright : ∀ v ∈ e.right?, v.isFloatFree = true := fun v hv =>
    hoperands v (List.mem_of_getElem? hv)
  rcases ofOperator_cases h with
    ⟨c, rfl, hne⟩ | ⟨path, k, body, rfl, -, hbody⟩ | ⟨path, t, rfl, -, ht⟩
  · refine .combine hne fun child hchild => ?_
    exact hchildren child hchild (allBuiltIn_iff.1 hbuiltIn child hchild)
  · exact .quantify (hchildren body (List.mem_of_getElem? hbody) hbuiltIn)
  · obtain ⟨hlegible, hprepared⟩ := legible_testOf hright ht
    exact .test hlegible hprepared

theorem legible_ofExpression {options : CompileOptions} {e : Expression} {children : List Query}
    (hoperands : ∀ v ∈ e.operands, v.isFloatFree = true)
    (hchildren : ∀ child ∈ children, child.isBuiltIn = true → child.Legible)
    (hbuiltIn : (ofExpression options e children).isBuiltIn = true) :
    (ofExpression options e children).Legible := by
  unfold ofExpression at hbuiltIn ⊢
  cases h : ofNode options (Token.resolve e.token).name e children with
  | error error =>
      simp only [h]
      exact .invalid error
  | ok q =>
      simp only [h] at hbuiltIn ⊢
      have hlegible : q.isBuiltIn = true → q.Legible := by
        intro hbuiltIn
        unfold ofNode at h
        split at h
        · cases h
          cases hbuiltIn
        · split at h
          · exact legible_ofOperator hoperands hchildren h hbuiltIn
          · cases h
      split
      · next hnegated =>
          rw [if_pos hnegated] at hbuiltIn
          exact .negated (hlegible hbuiltIn)
      · next hnegated =>
          rw [if_neg hnegated] at hbuiltIn
          exact hlegible hbuiltIn

mutual

/-- An expression without floats reads as a legible query, unless it asks a custom operator. -/
theorem legible_read {options : CompileOptions} (v : Value) (hfree : v.isFloatFree = true)
    (hbuiltIn : (read options v).isBuiltIn = true) : (read options v).Legible := by
  match v with
  | .array (.string token :: operands) =>
      rw [Value.isFloatFree, Value.isFloatFreeItems, Bool.and_eq_true] at hfree
      rw [read] at hbuiltIn ⊢
      exact legible_ofExpression (Value.isFloatFreeItems_iff.1 hfree.2)
        (legible_readAll operands hfree.2) hbuiltIn
  | .null | .boolean _ | .integer _ | .float _ | .string _ | .object _ | .array []
  | .array (.null :: _) | .array (.boolean _ :: _) | .array (.integer _ :: _)
  | .array (.float _ :: _) | .array (.array _ :: _) | .array (.object _ :: _) =>
      exact .invalid _

theorem legible_readAll {options : CompileOptions} (vs : List Value)
    (hfree : Value.isFloatFreeItems vs = true) :
    ∀ q ∈ readAll options vs, q.isBuiltIn = true → q.Legible := by
  match vs with
  | [] => exact List.forall_mem_nil _
  | v :: vs =>
      rw [Value.isFloatFreeItems, Bool.and_eq_true] at hfree
      exact List.forall_mem_cons.2 ⟨legible_read v hfree.1, legible_readAll vs hfree.2⟩

end

/-! ### Compiling -/

theorem forall_mem_predicates {P : Predicate → Prop} {qs : List Query}
    (h : ∀ q ∈ qs, ∀ slot, P (q.predicate slot)) (slot : Slot) :
    ∀ p ∈ predicates slot qs, P p := by
  induction qs generalizing slot with
  | nil => exact List.forall_mem_nil _
  | cons q qs ih =>
      rw [List.forall_mem_cons] at h
      exact List.forall_mem_cons.2 ⟨h.1 slot, ih h.2 _⟩

theorem Legible.predicate {q : Query} (hq : q.Legible) (slot : Slot) :
    (q.predicate slot).Legible := by
  induction hq generalizing slot with
  | invalid error => exact .never
  | @negated token body h ih =>
      rw [Query.predicate]
      split
      · exact .never
      · exact .not (ih slot)
  | @combine c children hne h ih =>
      refine Predicate.legible_combineAll ?_ (forall_mem_predicates ih slot)
      rw [← List.length_pos_iff, length_predicates]
      exact List.length_pos_of_ne_nil hne
  | quantify h ih => exact .quantify (ih slot)
  | test ht => exact .test (ht.atSlot slot)

theorem Legible.prepared {q : Query} (hq : q.Legible) : ∀ entry ∈ q.hoisted, entry.Prepared := by
  induction hq with
  | invalid error => exact List.forall_mem_nil _
  | negated h ih => exact ih
  | combine hne h ih =>
      intro entry hentry
      rw [hoisted, hoistedAll_eq_flatMap] at hentry
      obtain ⟨q, hq, hentry⟩ := List.mem_flatMap.1 hentry
      exact ih q hq entry hentry
  | quantify h ih => exact ih
  | test ht hprepared => exact hprepared

end Query

end RecordFilter
