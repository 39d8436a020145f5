import RecordFilter.Query.Meaning

/-!
# Reading one node

`plain` is the query of a node apart from the negation mark of its token. The
query of the node itself negates it, unless the node is invalid; so the mark has
no say in whether anything is degraded.
-/

namespace RecordFilter.Query

/-- The query of a node without its negation. -/
def plain (options : CompileOptions) (token : String) (operands : List Value) : Query :=
  match ofNode options (Token.resolve token).name ⟨token, operands⟩
      (readAll options operands) with
  | .ok q => q
  | .error error => invalid error

variable {options : CompileOptions} {token : String} {operands : List Value}

theorem plain_of_ok {q : Query} (h : ofNode options (Token.resolve token).name ⟨token, operands⟩
    (readAll options operands) = .ok q) : plain options token operands = q := by
  rw [plain, h]

theorem plain_of_error {e : CompileError} (h : ofNode options (Token.resolve token).name
    ⟨token, operands⟩ (readAll options operands) = .error e) :
    plain options token operands = invalid e := by
  rw [plain, h]

theorem read_of_ok {q : Query} (h : ofNode options (Token.resolve token).name ⟨token, operands⟩
    (readAll options operands) = .ok q) :
    read options (.array (.string token :: operands)) =
      if (Token.resolve token).negated then negated token q else q := by
  rw [read, ofExpression]
  simp only [h]

theorem read_of_error {e : CompileError} (h : ofNode options (Token.resolve token).name
    ⟨token, operands⟩ (readAll options operands) = .error e) :
    read options (.array (.string token :: operands)) = invalid e := by
  rw [read, ofExpression]
  simp only [h]

theorem read_of_plain {q : Query} (h : plain options token operands = q)
    (hq : ∀ e, q ≠ invalid e) :
    read options (.array (.string token :: operands)) =
      if (Token.resolve token).negated then negated token q else q := by
  cases hnode : ofNode options (Token.resolve token).name ⟨token, operands⟩
      (readAll options operands) with
  | error e =>
      rw [plain_of_error hnode] at h
      exact absurd h.symm (hq e)
  | ok q' =>
      rw [plain_of_ok hnode] at h
      rw [read_of_ok hnode, h]

theorem isDegraded_read_node :
    (read options (.array (.string token :: operands))).isDegraded =
      (plain options token operands).isDegraded := by
  cases h : ofNode options (Token.resolve token).name ⟨token, operands⟩
      (readAll options operands) with
  | error e => rw [read_of_error h, plain_of_error h]
  | ok q =>
      rw [read_of_ok h, plain_of_ok h]
      split
      · rw [isDegraded]
      · rfl

theorem eval_read_node (scope : Scope) :
    (read options (.array (.string token :: operands))).eval scope =
      if (Token.resolve token).negated then
        if (plain options token operands).isDegraded then .ok false
        else ((plain options token operands).eval scope).map (! ·)
      else (plain options token operands).eval scope := by
  cases h : ofNode options (Token.resolve token).name ⟨token, operands⟩
      (readAll options operands) with
  | error e =>
      rw [read_of_error h, plain_of_error h, eval, isDegraded, if_pos rfl, ite_self]
  | ok q =>
      rw [read_of_ok h, plain_of_ok h]
      split
      · rw [eval]
      · rfl

theorem readAll_eq_map (options : CompileOptions) (vs : List Value) :
    readAll options vs = vs.map (read options) := by
  induction vs with
  | nil => rfl
  | cons v vs ih => rw [readAll, List.map_cons, ih]

mutual

/-- What changes every node alike changes the query of an expression alike, be it the
options that the expression is read under. -/
theorem read_map {other : CompileOptions} (f : Query → Query)
    (hshape : ∀ v, f (invalid (Expression.shapeError v)) = invalid (Expression.shapeError v))
    (hnode : ∀ e children,
      ofExpression other e (children.map f) = f (ofExpression options e children)) (v : Value) :
    read other v = f (read options v) := by
  match v with
  | .array (.string token :: operands) =>
      rw [read, read, readAll_map f hshape hnode operands, hnode]
  | .null | .boolean _ | .integer _ | .float _ | .string _ | .object _ | .array []
  | .array (.null :: _) | .array (.boolean _ :: _) | .array (.integer _ :: _)
  | .array (.float _ :: _) | .array (.array _ :: _) | .array (.object _ :: _) =>
      exact (hshape _).symm

theorem readAll_map {other : CompileOptions} (f : Query → Query)
    (hshape : ∀ v, f (invalid (Expression.shapeError v)) = invalid (Expression.shapeError v))
    (hnode : ∀ e children,
      ofExpression other e (children.map f) = f (ofExpression options e children))
    (vs : List Value) : readAll other vs = (readAll options vs).map f := by
  match vs with
  | [] => rfl
  | v :: vs =>
      rw [readAll, readAll, List.map_cons, read_map f hshape hnode v,
        readAll_map f hshape hnode vs]

end

theorem plain_custom {op : CustomOperator}
    (h : options.registry.get? (Token.resolve token).name = some op) :
    plain options token operands =
      custom (Token.resolve token).name op (operands.head?.getD .null) := by
  apply plain_of_ok
  rw [ofNode, h]
  rfl

theorem plain_unknown (h : options.registry.get? (Token.resolve token).name = none)
    (ho : Operator.ofToken? (Token.resolve token).name = none) :
    plain options token operands = invalid (.unknownOperator token) := by
  apply plain_of_error
  rw [ofNode, h]
  simp only [ho]

theorem ofNode_builtIn {op : Operator} {children : List Query}
    (h : options.registry.get? (Token.resolve token).name = none)
    (ho : Operator.ofToken? (Token.resolve token).name = some op) :
    ofNode options (Token.resolve token).name ⟨token, operands⟩ children =
      ofOperator options.chain op ⟨token, operands⟩ children := by
  rw [ofNode, h]
  simp only [ho]

theorem ofOperator_test {chain : Bool} {op : Operator} {e : Expression} {children : List Query}
    (hc : ∀ c, op ≠ .combine c) (hq : ∀ q, op ≠ .quantify q) :
    ofOperator chain op e children = (do
      let path ← pathOf chain e.token e.left?
      return test path (← testOf op e.token e.right?)) := by
  cases op with
  | combine c => exact absurd rfl (hc c)
  | quantify q => exact absurd rfl (hq q)
  | _ => rfl

theorem exists_of_pathOf {chain : Bool} {token : String} {left : Option Value} {path : Path}
    (h : pathOf chain token left = .ok path) : ∃ raw, Path.read? chain raw = some path := by
  unfold pathOf at h
  split at h
  · next raw =>
      split at h
      · next hread =>
          cases h
          exact ⟨raw, hread⟩
      · cases h
  · cases h

/-- What the query of a built-in operator can be. -/
theorem ofOperator_cases {chain : Bool} {op : Operator} {e : Expression} {children : List Query}
    {q : Query} (h : ofOperator chain op e children = .ok q) :
    (∃ c, q = combine c children ∧ children ≠ []) ∨
      (∃ path k body, q = quantify path k body ∧ pathOf chain e.token e.left? = .ok path ∧
        children[1]? = some body) ∨
      ∃ path t, q = test path t ∧ pathOf chain e.token e.left? = .ok path ∧
        testOf op e.token e.right? = .ok t := by
  unfold ofOperator at h
  split at h
  · next c =>
      split at h
      · cases h
      · next hne =>
          cases h
          exact .inl ⟨c, rfl, fun hnil => hne (List.isEmpty_iff.2 hnil)⟩
  · next k =>
      cases hp : pathOf chain e.token e.left? with
      | error error =>
          rw [hp] at h
          cases h
      | ok path =>
          cases hbody : children[1]? with
          | none =>
              rw [hp, hbody] at h
              cases h
          | some body =>
              rw [hp, hbody] at h
              cases h
              exact .inr (.inl ⟨path, k, body, rfl, rfl, rfl⟩)
  · cases hp : pathOf chain e.token e.left? with
    | error error =>
        rw [hp] at h
        cases h
    | ok path =>
        cases ht : testOf op e.token e.right? with
        | error error =>
            rw [hp, ht] at h
            cases h
        | ok t =>
            rw [hp, ht] at h
            cases h
            exact .inr (.inr ⟨path, t, rfl, rfl, rfl⟩)

end RecordFilter.Query
