import RecordFilter.Program.Columns
import RecordFilter.Proofs.Query.Node

/-!
# What an expression takes from the registry

The registry is asked once for every node, for the name that is left of its token when the
negation mark is taken off (`Query.ofNode_congr`). Two registries that hold the same under
the identifiers among these names therefore read an expression to the same query
(`Query.read_congr`), and after the reading no registry is asked any more. So a registered
operator concerns the nodes of its own name and no others (`compile_registered`): a node that
is written with another token of a built-in operator keeps its meaning when one token of the
operator is taken by a custom one.
-/

namespace RecordFilter

namespace Value

mutual

/-- The strings that head an array, of all arrays in a value. -/
def headTokens : Value → List String
  | array (string token :: items) => token :: headTokensAll items
  | array items => headTokensAll items
  | object fields => headTokensFields fields
  | _ => []

def headTokensAll : List Value → List String
  | [] => []
  | v :: vs => v.headTokens ++ headTokensAll vs

def headTokensFields : List (String × Value) → List String
  | [] => []
  | (_, v) :: fields => v.headTokens ++ headTokensFields fields

end

/-- The names of the nodes that a value can have, their marks taken off. -/
def nodeNames (v : Value) : List String := v.headTokens.map fun token => (Token.resolve token).name

end Value

namespace Registry

/-- Two registries hold the same under the identifiers among some names. -/
def AgreeOn (names : List String) (registry registry' : Registry) : Prop :=
  ∀ name ∈ names, isIdentifier name = true → registry.lookup name = registry'.lookup name

theorem get?_eq_of_agreeOn {names : List String} {registry registry' : Registry}
    (h : registry.AgreeOn names registry') : ∀ name ∈ names,
      registry.get? name = registry'.get? name := by
  intro name hname
  rw [get?, get?]
  split
  · next hidentifier => exact h name hname hidentifier
  · rfl

/-- Under any other name a registry holds what it held, and under a name that is no identifier
nothing is found. -/
theorem agreeOn_register {names : List String} (registry : Registry) {name : String}
    (custom : CustomOperator) (h : isIdentifier name = false ∨ name ∉ names) :
    (registry.register name custom).AgreeOn names registry := by
  intro other hother hidentifier
  have hne : other ≠ name := by
    rintro rfl
    rcases h with h | h
    · rw [hidentifier] at h
      cases h
    · exact h hother
  have hget := get?_register_of_ne registry custom hne
  rwa [get?, get?, if_pos hidentifier, if_pos hidentifier] at hget

end Registry

namespace Operator

theorem ofToken?_of_mem_tokens {op : Operator} {token : String} (h : token ∈ op.tokens) :
    ofToken? token = some op := by
  have htokens : ∀ entry ∈ catalog, ∀ token ∈ entry.2, ofToken? token = some entry.1 := by decide
  have hentry : (op, op.tokens) ∈ catalog := by
    rw [tokens] at h ⊢
    cases hlookup : catalog.lookup op with
    | none =>
        rw [hlookup] at h
        cases h
    | some tokens =>
        obtain ⟨front, back, hcatalog, -⟩ := List.lookup_eq_some_iff.1 hlookup
        rw [hcatalog, Option.getD_some]
        exact List.mem_append_right _ List.mem_cons_self
  exact htokens _ hentry token h

theorem isTest_of_mem_tokens {op : Operator} {token other : String} (h : token ∈ op.tokens)
    (hother : other ∈ op.tokens) (hne : other ≠ token) :
    (∀ c, op ≠ combine c) ∧ ∀ q, op ≠ quantify q := by
  have hcombine : ∀ c, (combine c).tokens = [c.symbol] := by
    intro c
    cases c <;> rfl
  have hquantify : ∀ q, (quantify q).tokens = [q.name] := by
    intro q
    cases q <;> rfl
  constructor
  · rintro c rfl
    rw [hcombine, List.mem_singleton] at h hother
    exact hne (hother.trans h.symm)
  · rintro q rfl
    rw [hquantify, List.mem_singleton] at h hother
    exact hne (hother.trans h.symm)

end Operator

namespace Query

variable {chain strict : Bool} {registry registry' : Registry}

theorem ofNode_congr {name : String} (h : registry.get? name = registry'.get? name)
    (e : Expression) (children : List Query) :
    ofNode ⟨chain, strict, registry⟩ name e children =
      ofNode ⟨chain, strict, registry'⟩ name e children := by
  rw [ofNode, ofNode, h]

theorem ofExpression_congr {token : String}
    (h : registry.get? (Token.resolve token).name = registry'.get? (Token.resolve token).name)
    (operands : List Value) (children : List Query) :
    ofExpression ⟨chain, strict, registry⟩ ⟨token, operands⟩ children =
      ofExpression ⟨chain, strict, registry'⟩ ⟨token, operands⟩ children := by
  rw [ofExpression, ofExpression, ofNode_congr h]

mutual

/-- Registries that hold the same under the names of the nodes read the same. -/
theorem read_congr (v : Value)
    (h : ∀ name ∈ v.nodeNames, registry.get? name = registry'.get? name) :
    read ⟨chain, strict, registry⟩ v = read ⟨chain, strict, registry'⟩ v := by
  match v with
  | .array (.string token :: operands) =>
      rw [Value.nodeNames, Value.headTokens, List.map_cons, List.forall_mem_cons] at h
      have hoperands := readAll_congr operands h.2
      rw [read, read, hoperands, ofExpression_congr h.1]
  | .null | .boolean _ | .integer _ | .float _ | .string _ | .object _ | .array []
  | .array (.null :: _) | .array (.boolean _ :: _) | .array (.integer _ :: _)
  | .array (.float _ :: _) | .array (.array _ :: _) | .array (.object _ :: _) => rfl

theorem readAll_congr (vs : List Value)
    (h : ∀ name ∈ (Value.headTokensAll vs).map fun token => (Token.resolve token).name,
      registry.get? name = registry'.get? name) :
    readAll ⟨chain, strict, registry⟩ vs = readAll ⟨chain, strict, registry'⟩ vs := by
  match vs with
  | [] => rfl
  | v :: vs =>
      rw [Value.headTokensAll, List.map_append, List.forall_mem_append] at h
      rw [readAll, readAll, read_congr v h.1, readAll_congr vs h.2]

end

/-- The node of a test takes nothing from the nodes that its operands could be. -/
theorem read_congr_of_test {token : String} {op : Operator}
    (hget : registry.get? (Token.resolve token).name = registry'.get? (Token.resolve token).name)
    (hop : Operator.ofToken? (Token.resolve token).name = some op) (hc : ∀ c, op ≠ .combine c)
    (hq : ∀ q, op ≠ .quantify q) (operands : List Value) :
    read ⟨chain, strict, registry⟩ (.array (.string token :: operands)) =
      read ⟨chain, strict, registry'⟩ (.array (.string token :: operands)) := by
  have hchildren : ∀ children children' : List Query,
      ofNode ⟨chain, strict, registry'⟩ (Token.resolve token).name ⟨token, operands⟩ children =
        ofNode ⟨chain, strict, registry'⟩ (Token.resolve token).name ⟨token, operands⟩
          children' := by
    intro children children'
    rw [ofNode, ofNode]
    cases registry'.get? (Token.resolve token).name with
    | some custom => rfl
    | none => simp only [hop, ofOperator_test hc hq]
  rw [read, read, ofExpression_congr hget, ofExpression, ofExpression]
  simp only [hchildren (readAll ⟨chain, strict, registry⟩ operands)
    (readAll ⟨chain, strict, registry'⟩ operands)]

theorem compileExpression_congr {expr : Value}
    (h : read ⟨chain, strict, registry⟩ expr = read ⟨chain, strict, registry'⟩ expr) :
    compileExpression ⟨chain, strict, registry⟩ expr =
      compileExpression ⟨chain, strict, registry'⟩ expr := by
  rw [compileExpression, compileExpression, h]

end Query

namespace Expression

variable {chain strict : Bool} {registry registry' : Registry} {expr : Value}

def CompilesAlike (chain strict : Bool) (registry registry' : Registry) (expr : Value) : Prop :=
  Program.compile ⟨chain, strict, registry⟩ expr =
      Program.compile ⟨chain, strict, registry'⟩ expr ∧
    ∀ names, ColumnProgram.compile names ⟨chain, strict, registry⟩ expr =
      ColumnProgram.compile names ⟨chain, strict, registry'⟩ expr

theorem compilesAlike_of_read
    (h : Query.read ⟨chain, strict, registry⟩ expr = Query.read ⟨chain, strict, registry'⟩ expr) :
    CompilesAlike chain strict registry registry' expr := by
  have hexpression := Query.compileExpression_congr h
  constructor
  · rw [Program.compile, Program.compile, hexpression]
  · intro names
    rw [ColumnProgram.compile, ColumnProgram.compile]
    cases Layout.read names with
    | error e => rfl
    | ok layout => simp only [ColumnProgram.compileIn, hexpression]

theorem compilesAlike_of_agreeOn (h : registry.AgreeOn expr.nodeNames registry') :
    CompilesAlike chain strict registry registry' expr :=
  compilesAlike_of_read (Query.read_congr expr (Registry.get?_eq_of_agreeOn h))

/-- Registries that hold the same under the identifiers that name nodes of an expression give
the same program with the same reports, or the same error. In particular nothing is changed by
an operator whose name is no identifier or names no node, and no node that is written with
one token of a built-in operator is changed by a custom operator that takes another one. -/
theorem compile_registered (chain strict : Bool) (registry : Registry) :
    (∀ registry' expr, registry.AgreeOn expr.nodeNames registry' →
      CompilesAlike chain strict registry registry' expr) ∧
    (∀ name custom expr, Registry.isIdentifier name = false ∨ name ∉ expr.nodeNames →
      CompilesAlike chain strict (registry.register name custom) registry expr) ∧
    ∀ op name custom token operands, name ∈ Operator.tokens op →
      (Token.resolve token).name ∈ op.tokens → (Token.resolve token).name ≠ name →
      Query.read ⟨chain, strict, registry.register name custom⟩
          (.array (.string token :: operands)) =
        Query.read ⟨chain, strict, registry⟩ (.array (.string token :: operands)) := by
  refine ⟨fun registry' expr h => compilesAlike_of_agreeOn h, fun name custom expr h => ?_,
    fun op name custom token operands hname htoken hne => ?_⟩
  · exact compilesAlike_of_agreeOn (Registry.agreeOn_register registry custom h)
  · have hget := Registry.get?_register_of_ne registry custom hne
    obtain ⟨hc, hq⟩ := Operator.isTest_of_mem_tokens hname htoken hne
    exact Query.read_congr_of_test hget (Operator.ofToken?_of_mem_tokens htoken) hc hq operands

/-- A registry with two names, one of them no identifier, next to one that holds another operator
under a name in no node; and `includes` taken, but not `*`. -/
theorem compile_registered_includes :
    (∃ p, (Program.compile ⟨false, false, [("even", fun _ i _ => i % 2 == 0),
          ("a b", fun _ _ _ => true)]⟩ (.array [.string "&&", .array [.string "!even"],
          .array [.string "*", .string ".a", .string "x"]])).outcome = .ok p) ∧
      CompilesAlike false false
        [("even", fun _ i _ => i % 2 == 0), ("a b", fun _ _ _ => true)]
        [("includes", fun _ _ _ => false), ("even", fun _ i _ => i % 2 == 0)]
        (.array [.string "&&", .array [.string "!even"],
          .array [.string "*", .string ".a", .string "x"]]) ∧
      CompilesAlike false false (Registry.register "a b" (fun _ _ _ => true) [])
        [] (.array [.string "a b"]) ∧
      Query.read ⟨false, false, Registry.register "includes" (fun _ _ _ => false) []⟩
          (.array [.string "!*", .string ".a", .array [.string "includes"]]) =
        Query.read ⟨false, false, []⟩
          (.array [.string "!*", .string ".a", .array [.string "includes"]]) := by
  have hagree : Registry.AgreeOn ["&&", "even", "*"]
      [("even", fun _ i _ => i % 2 == 0), ("a b", fun _ _ _ => true)]
      [("includes", fun _ _ _ => false), ("even", fun _ i _ => i % 2 == 0)] := by
    intro name hname hidentifier
    have hcases : name = "&&" ∨ name = "even" ∨ name = "*" := by simpa using hname
    rcases hcases with rfl | rfl | rfl <;> rfl
  refine ⟨⟨_, rfl⟩, ?_, ?_, ?_⟩
  · exact (compile_registered false false _).1 _ _ hagree
  · exact (compile_registered false false []).2.1 _ _ _ (.inl (by decide))
  · exact (compile_registered false false []).2.2 (.text .includes) "includes" _ "!*" _
      (by decide) (by decide) (by decide)

end Expression

end RecordFilter
