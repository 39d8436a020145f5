import Mathlib.Data.List.Forall2
import RecordFilter.Proofs.Expression.Meaning
import RecordFilter.Proofs.Layout.Relocation
import RecordFilter.Proofs.Predicate.Slots

/-!
# The literals of an expression

A predicate that an expression compiles to has, for every node that is left, the test
that the node asks for. `HoistsTo` says so of an expression and a predicate side by side:
where a node asks for membership in a list, the predicate refers to a slot in which the
table holds the set of that list, and where it asks for a pattern, to a slot that holds
the pattern of its source, read with its case flag. If the relation is lossy, then a node
may have been given up, and with it everything below it.

The compiled form of an expression is of this kind in every table that holds the
literals of the expression (`hoistsTo_read`), and so is its image in a layout
(`hoistsTo_image`), and nothing is lost unless a node is invalid or does not fit. In
particular every test that is left finds its literal (`isSome_fetch?_of_hoistsTo`).
-/

namespace RecordFilter

def Predicate.marked (negated : Bool) (p : Predicate) : Predicate := if negated then .not p else p

theorem Predicate.tests_marked (negated : Bool) (p : Predicate) :
    (p.marked negated).tests = p.tests := by
  cases negated <;> rfl

theorem Layout.image?_marked (layout : Layout) (negated : Bool) (p : Predicate) :
    layout.image? (p.marked negated) = (layout.image? p).map (Predicate.marked negated) := by
  cases negated with
  | true => rfl
  | false =>
      change layout.image? p = (layout.image? p).map id
      cases layout.image? p <;> rfl

theorem Layout.fits_marked (layout : Layout) (negated : Bool) (p : Predicate) :
    layout.fits (p.marked negated) = layout.fits p := by
  cases negated <;> rfl

/-- What the test of an operator refers to, given the right operand. Only membership and
patterns have a slot, in which the table holds what the operand says. -/
def Operator.HoistsTo (table : HoistTable) (op : Operator) (right : Option Value)
    (t : Test Slot Slot) : Prop :=
  match op with
  | .member => ∃ slot items, t = .member slot ∧ right = some (.array items) ∧
      table[slot]? = some (.members (.ofItems items))
  | .regexp ignoreCase => ∃ slot source p, t = .pattern slot ∧ right = some (.string source) ∧
      Pattern.read source ignoreCase = .ok p ∧ table[slot]? = some (.pattern p)
  | .combine _ => False
  | .quantify _ => False
  | _ => t.slot? = none

namespace Operator

variable {table : HoistTable} {op : Operator} {right : Option Value}

theorem hoistsTo_atSlot {token : String} {slot : Slot} {t : Test (List Value) Pattern}
    (h : Query.testOf op token right = .ok t) (htable : table.Holds slot t.hoisted) :
    op.HoistsTo table right (t.atSlot slot) := by
  cases op with
  | member =>
      cases right with
      | none => cases h
      | some v =>
          cases v with
          | array items =>
              cases h
              exact ⟨slot, items, rfl, rfl, htable.head⟩
          | _ => cases h
  | regexp ignoreCase =>
      cases right with
      | none => cases h
      | some v =>
          cases v with
          | string source =>
              simp only [Query.testOf] at h
              cases hread : Pattern.read source ignoreCase with
              | error fault =>
                  rw [hread] at h
                  cases h
              | ok p =>
                  rw [hread] at h
                  cases h
                  exact ⟨slot, source, p, rfl, rfl, hread, htable.head⟩
          | _ => cases h
  | range interval =>
      cases right with
      | none => cases h
      | some v =>
          cases v with
          | array bounds =>
              rcases bounds with _ | ⟨min, _ | ⟨max, rest⟩⟩ <;> cases h
              rfl
          | _ => cases h
  | compare c =>
      simp only [Query.testOf] at h
      split at h <;> cases h
      rfl
  | text test =>
      simp only [Query.testOf] at h
      split at h <;> cases h
      rfl
  | truthy | falsy | typeTest test =>
      cases h
      rfl
  | combine c | quantify q => cases h

theorem isSome_fetch?_of_hoistsTo {t : Test Slot Slot} (h : op.HoistsTo table right t) :
    (t.fetch? table).isSome = true := by
  cases op with
  | member =>
      obtain ⟨slot, items, rfl, -, hslot⟩ := h
      simp [Test.fetch?, HoistTable.members?, hslot]
  | regexp ignoreCase =>
      obtain ⟨slot, source, p, rfl, -, -, hslot⟩ := h
      simp [Test.fetch?, HoistTable.pattern?, hslot]
  | combine c => cases h
  | quantify q => cases h
  | _ =>
      have hslot : t.slot? = none := h
      cases t <;> first | rfl | cases hslot

end Operator

namespace Expression

/-- What an expression comes to with a table: for each node that is left the predicate
of its operator, with the literals of the node in the table. A node may have been given up
only if this is `lossy`. -/
inductive HoistsTo (options : CompileOptions) (table : HoistTable) (lossy : Bool) :
    Value → Predicate → Prop where
  | never {v : Value} (h : lossy = true) : HoistsTo options table lossy v .never
  | custom {token : String} {operands : List Value} {op : CustomOperator}
    (hregistry : options.registry.get? (Token.resolve token).name = some op) :
    HoistsTo options table lossy (.array (.string token :: operands))
      (.marked (Token.resolve token).negated
        (.custom (Token.resolve token).name op (operands.head?.getD .null)))
  | combine {token : String} {operands : List Value} {c : Combinator} {ps : List Predicate}
    (hregistry : options.registry.get? (Token.resolve token).name = none)
    (hop : Operator.ofToken? (Token.resolve token).name = some (.combine c))
    (h : List.Forall₂ (HoistsTo options table lossy) operands ps) :
    HoistsTo options table lossy (.array (.string token :: operands))
      (.marked (Token.resolve token).negated (.combineAll c ps))
  | quantify {token : String} {left body : Value} {rest : List Value} {q : Quantifier}
    {path : Path} {p : Predicate}
    (hregistry : options.registry.get? (Token.resolve token).name = none)
    (hop : Operator.ofToken? (Token.resolve token).name = some (.quantify q))
    (h : HoistsTo options table lossy body p) :
    HoistsTo options table lossy (.array (.string token :: left :: body :: rest))
      (.marked (Token.resolve token).negated (.quantify path q p))
  | test {token : String} {operands : List Value} {op : Operator} {path : Path}
    {t : Test Slot Slot}
    (hregistry : options.registry.get? (Token.resolve token).name = none)
    (hop : Operator.ofToken? (Token.resolve token).name = some op)
    (h : op.HoistsTo table operands[1]? t) :
    HoistsTo options table lossy (.array (.string token :: operands))
      (.marked (Token.resolve token).negated (.test path t))

variable {options : CompileOptions} {table : HoistTable} {lossy : Bool}

section Node

variable {token : String} {operands : List Value}

theorem hoisted_read_node :
    (Query.read options (.array (.string token :: operands))).hoisted =
      (Query.plain options token operands).hoisted := by
  cases h : Query.ofNode options (Token.resolve token).name ⟨token, operands⟩
      (Query.readAll options operands) with
  | error e => rw [Query.read_of_error h, Query.plain_of_error h]
  | ok q =>
      rw [Query.read_of_ok h, Query.plain_of_ok h]
      split
      · rw [Query.hoisted]
      · rfl

/-- A degraded node is given up, or a node is not invalid and compiles to what it is
without its mark, negated if it is marked. -/
theorem predicate_read_node (options : CompileOptions) (token : String) (operands : List Value)
    (slot : Slot) :
    ((Query.read options (.array (.string token :: operands))).isDegraded = true ∧
        (Query.read options (.array (.string token :: operands))).predicate slot = .never) ∨
      (∀ e, Query.plain options token operands ≠ .invalid e) ∧
        (Query.read options (.array (.string token :: operands))).predicate slot =
          .marked (Token.resolve token).negated
            ((Query.plain options token operands).predicate slot) := by
  cases h : Query.ofNode options (Token.resolve token).name ⟨token, operands⟩
      (Query.readAll options operands) with
  | error e =>
      rw [Query.read_of_error h]
      exact .inl ⟨rfl, rfl⟩
  | ok q =>
      rw [Query.read_of_ok h, Query.plain_of_ok h]
      cases (Token.resolve token).negated with
      | false =>
          cases q with
          | invalid e => exact .inl ⟨rfl, rfl⟩
          | _ => exact .inr ⟨by simp, rfl⟩
      | true =>
          rw [if_pos rfl, Query.predicate]
          split
          · next hdegraded => exact .inl ⟨hdegraded, rfl⟩
          · next hvalid =>
              refine .inr ⟨?_, rfl⟩
              rintro e rfl
              exact hvalid rfl

theorem exists_plain_test {op : Operator}
    (h : options.registry.get? (Token.resolve token).name = none)
    (ho : Operator.ofToken? (Token.resolve token).name = some op)
    (hc : ∀ c, op ≠ .combine c) (hq : ∀ q, op ≠ .quantify q)
    (hvalid : ∀ e, Query.plain options token operands ≠ .invalid e) :
    ∃ path t, Query.plain options token operands = .test path t ∧
      Query.testOf op token operands[1]? = .ok t := by
  have hof : Query.ofNode options (Token.resolve token).name ⟨token, operands⟩
      (Query.readAll options operands) = (do
        let path ← Query.pathOf options.chain token operands.head?
        return .test path (← Query.testOf op token operands[1]?)) := by
    rw [Query.ofNode_builtIn h ho, Query.ofOperator_test hc hq]
    rfl
  cases hp : Query.pathOf options.chain token operands.head? with
  | error e =>
      rw [hp] at hof
      exact absurd (Query.plain_of_error hof) (hvalid e)
  | ok path =>
      cases ht : Query.testOf op token operands[1]? with
      | error e =>
          rw [hp, ht] at hof
          exact absurd (Query.plain_of_error hof) (hvalid e)
      | ok t =>
          rw [hp, ht] at hof
          exact ⟨path, t, Query.plain_of_ok hof, rfl⟩

end Node

theorem hoistsTo_never {v : Value}
    (hlossy : lossy = false → (Query.read options v).isDegraded = false)
    (h : (Query.read options v).isDegraded = true) :
    HoistsTo options table lossy v .never := by
  cases lossy with
  | true => exact .never rfl
  | false =>
      rw [hlossy rfl] at h
      cases h

mutual

/-- An expression comes to its compiled form, in every table that holds its literals.
Nothing is lost of an expression that is not degraded. -/
theorem hoistsTo_read (v : Value) (slot : Slot)
    (hlossy : lossy = false → (Query.read options v).isDegraded = false)
    (htable : table.Holds slot (Query.read options v).hoisted) :
    HoistsTo options table lossy v ((Query.read options v).predicate slot) := by
  match v with
  | .array (.string token :: operands) =>
      rcases predicate_read_node options token operands slot with
        ⟨hdegraded, hnever⟩ | ⟨hvalid, hmarked⟩
      · rw [hnever]
        exact hoistsTo_never hlossy hdegraded
      rw [hoisted_read_node] at htable
      rw [Query.isDegraded_read_node] at hlossy
      rw [hmarked]
      cases hreg : options.registry.get? (Token.resolve token).name with
      | some op =>
          rw [Query.plain_custom hreg]
          exact .custom hreg
      | none =>
          cases hop : Operator.ofToken? (Token.resolve token).name with
          | none => exact absurd (Query.plain_unknown hreg hop) (hvalid _)
          | some op =>
              cases op with
              | combine c =>
                  match operands with
                  | [] => exact absurd (plain_combine hreg hop) (hvalid _)
                  | v :: vs =>
                      have hplain : Query.plain options token (v :: vs) =
                          .combine c (Query.readAll options (v :: vs)) := plain_combine hreg hop
                      rw [hplain] at htable hlossy ⊢
                      exact .combine hreg hop (hoistsTo_readAll (v :: vs) slot hlossy htable)
              | quantify q =>
                  match operands with
                  | [] =>
                      obtain ⟨e, he⟩ := plain_quantify_invalid [] hreg hop (.inr rfl)
                      exact absurd he (hvalid e)
                  | [left] =>
                      obtain ⟨e, he⟩ := plain_quantify_invalid [left] hreg hop (.inr rfl)
                      exact absurd he (hvalid e)
                  | left :: body :: rest =>
                      cases hpath : path? options.chain (left :: body :: rest) with
                      | none =>
                          obtain ⟨e, he⟩ := plain_quantify_invalid _ hreg hop (.inl hpath)
                          exact absurd he (hvalid e)
                      | some path =>
                          rw [plain_quantify hreg hop hpath] at htable hlossy ⊢
                          exact .quantify hreg hop (hoistsTo_read body slot hlossy htable)
              | _ =>
                  obtain ⟨path, t, hplain, ht⟩ :=
                    exists_plain_test hreg hop (by simp) (by simp) hvalid
                  rw [hplain] at htable ⊢
                  exact .test hreg hop (Operator.hoistsTo_atSlot ht htable)
  | .null | .boolean _ | .integer _ | .float _ | .string _ | .object _ | .array []
  | .array (.null :: _) | .array (.boolean _ :: _) | .array (.integer _ :: _)
  | .array (.float _ :: _) | .array (.array _ :: _) | .array (.object _ :: _) =>
      exact hoistsTo_never hlossy rfl

theorem hoistsTo_readAll (vs : List Value) (slot : Slot)
    (hlossy : lossy = false → Query.anyDegraded (Query.readAll options vs) = false)
    (htable : table.Holds slot (Query.hoistedAll (Query.readAll options vs))) :
    List.Forall₂ (HoistsTo options table lossy) vs
      (Query.predicates slot (Query.readAll options vs)) := by
  match vs with
  | [] => exact .nil
  | v :: vs =>
      have hparts : lossy = false → (Query.read options v).isDegraded = false ∧
          Query.anyDegraded (Query.readAll options vs) = false := by
        intro hl
        simpa [Query.readAll, Query.anyDegraded] using hlossy hl
      exact .cons (hoistsTo_read v slot (fun hl => (hparts hl).1) htable.left)
        (hoistsTo_readAll vs _ (fun hl => (hparts hl).2) htable.right)

end

theorem hoistsTo_image_marked {layout : Layout} {v : Value} {negated : Bool} {p : Predicate}
    (hlossy : lossy = false → layout.fits (p.marked negated) = true)
    (h : ∀ p', layout.image? p = .ok p' → HoistsTo options table lossy v (p'.marked negated)) :
    HoistsTo options table lossy v (.orNever (layout.image? (p.marked negated))) := by
  rw [Layout.image?_marked]
  cases himage : layout.image? p with
  | ok p' => exact h p' himage
  | error e =>
      cases lossy with
      | true => exact .never rfl
      | false =>
          rw [Layout.fits_marked] at hlossy
          obtain ⟨p', hp'⟩ := Layout.exists_image_of_fits (hlossy rfl)
          rw [himage] at hp'
          cases hp'

mutual

/-- Placing a predicate in a layout gives up nodes unless it fits, and leaves the slots of
the others. -/
theorem hoistsTo_image (layout : Layout) (v : Value) {p : Predicate}
    (hlossy : lossy = false → layout.fits p = true) (h : HoistsTo options table lossy v p) :
    HoistsTo options table lossy v (.orNever (layout.image? p)) := by
  match v, p, h with
  | _, _, .never h => exact .never h
  | .array (.string token :: operands), _, .custom hregistry =>
      apply hoistsTo_image_marked hlossy
      intro p' himage
      cases himage
  | .array (.string token :: operands), _,
      @HoistsTo.combine _ _ _ _ _ c ps hregistry hop hall =>
      apply hoistsTo_image_marked hlossy
      intro p' himage
      have hp' : p' = .combineAll c (layout.images ps) := by
        rw [← layout.orNever_image?_combineAll, himage]
        rfl
      rw [Layout.fits_marked, layout.fits_combineAll] at hlossy
      rw [hp']
      exact .combine hregistry hop (hoistsToAll_images layout operands hlossy hall)
  | .array (.string token :: left :: body :: rest), _,
      @HoistsTo.quantify _ _ _ _ _ _ _ _ path _ hregistry hop hbody =>
      apply hoistsTo_image_marked hlossy
      intro p' himage
      rw [Layout.image?] at himage
      cases hpath : layout.placePath path with
      | error e =>
          rw [hpath] at himage
          cases himage
      | ok path' =>
          rw [hpath] at himage
          cases himage
          exact .quantify hregistry hop hbody
  | .array (.string token :: operands), _,
      @HoistsTo.test _ _ _ _ _ _ path t hregistry hop ht =>
      apply hoistsTo_image_marked hlossy
      intro p' himage
      rw [Layout.image?] at himage
      cases hpath : layout.placePath path with
      | error e =>
          rw [hpath] at himage
          cases himage
      | ok path' =>
          rw [hpath] at himage
          cases himage
          exact .test hregistry hop ht

theorem hoistsToAll_images (layout : Layout) (vs : List Value) {ps : List Predicate}
    (hlossy : lossy = false → layout.fitsAll ps = true)
    (h : List.Forall₂ (HoistsTo options table lossy) vs ps) :
    List.Forall₂ (HoistsTo options table lossy) vs (layout.images ps) := by
  match vs, ps, h with
  | _, _, .nil => exact .nil
  | v :: vs, p :: ps, .cons hhead htail =>
      have hparts : lossy = false → layout.fits p = true ∧ layout.fitsAll ps = true := by
        intro hl
        simpa [Layout.fitsAll] using hlossy hl
      exact .cons (hoistsTo_image layout v (fun hl => (hparts hl).1) hhead)
        (hoistsToAll_images layout vs (fun hl => (hparts hl).2) htail)

end

mutual

/-- Every test that is left of an expression finds its literal in the table. -/
theorem isSome_fetch?_of_hoistsTo (v : Value) {p : Predicate}
    (h : HoistsTo options table lossy v p) {t : Test Slot Slot} (ht : t ∈ p.tests) :
    (t.fetch? table).isSome = true := by
  match v, p, h with
  | _, _, .never _ => cases ht
  | .array (.string token :: operands), _, .custom hregistry =>
      rw [Predicate.tests_marked] at ht
      cases ht
  | .array (.string token :: operands), _, .combine hregistry hop hall =>
      rw [Predicate.tests_marked, Predicate.tests_combineAll] at ht
      exact isSome_fetch?_of_forall_hoistsTo operands hall ht
  | .array (.string token :: left :: body :: rest), _, .quantify hregistry hop hbody =>
      rw [Predicate.tests_marked] at ht
      exact isSome_fetch?_of_hoistsTo body hbody ht
  | .array (.string token :: operands), _, .test hregistry hop htest =>
      rw [Predicate.tests_marked] at ht
      rw [List.mem_singleton.1 ht]
      exact Operator.isSome_fetch?_of_hoistsTo htest

theorem isSome_fetch?_of_forall_hoistsTo (vs : List Value) {ps : List Predicate}
    (h : List.Forall₂ (HoistsTo options table lossy) vs ps) {t : Test Slot Slot}
    (ht : t ∈ Predicate.testsAll ps) : (t.fetch? table).isSome = true := by
  match vs, ps, h with
  | _, _, .nil => cases ht
  | v :: vs, p :: ps, .cons hhead htail =>
      rcases List.mem_append.1 ht with ht | ht
      · exact isSome_fetch?_of_hoistsTo v hhead ht
      · exact isSome_fetch?_of_forall_hoistsTo vs htail ht

end

end Expression

end RecordFilter
