import RecordFilter.Proofs.Expression.Meaning

/-!
# Negating the token of an expression

A negation mark in front of a token makes the node answer the opposite, unless
the node or one below it cannot be compiled, in which case the negated node never
matches. The literals of the node are hoisted either way.

The mark is part of the token for `!`, `!!`, `!=` and `!==`. So a mark in front of
the empty token, `=` or `==` makes another operator. In front of `!` it does too,
but this one is the opposite of the first.
-/

namespace RecordFilter

namespace Token

theorem resolve_of_not_negated {token : String} (h : (resolve token).negated = false) :
    resolve token = ⟨token, false⟩ := by
  revert h
  rw [resolve]
  split
  · split
    · intro _
      rfl
    · intro h
      cases h
  · intro _
    rfl

/-- A negation mark in front of a token is taken off again, unless the two
together are a token of their own. -/
theorem resolve_mark {token : String} (h : isAtomic ("!" ++ token) = false) (hne : token ≠ "") :
    resolve ("!" ++ token) = ⟨token, true⟩ := by
  have hlist : ("!" ++ token).toList = '!' :: token.toList := by
    rw [String.toList_append]
    rfl
  have hempty : token.toList.isEmpty = false := by
    rw [List.isEmpty_eq_false_iff]
    intro hnil
    exact hne (by rw [← String.ofList_toList (s := token), hnil])
  rw [resolve, hlist]
  simp only [hempty, h, Bool.or_false, Bool.false_eq_true, if_false, String.ofList_toList]

theorem isAtomic_mark {token : String} (h₀ : token ≠ "") (h₁ : token ≠ "!") (h₂ : token ≠ "=")
    (h₃ : token ≠ "==") : isAtomic ("!" ++ token) = false := by
  have hcancel : ∀ s, "!" ++ token = "!" ++ s → token = s := fun s hs =>
    (String.append_right_inj "!").1 hs
  simp only [isAtomic, List.contains_eq_mem, List.mem_cons, List.not_mem_nil, or_false,
    decide_eq_false_iff_not, not_or]
  exact ⟨fun h => h₀ (hcancel "" h), fun h => h₁ (hcancel "!" h), fun h => h₂ (hcancel "=" h),
    fun h => h₃ (hcancel "==" h)⟩

end Token

namespace Query

theorem toOption_testOf (op : Operator) (token other : String) (right : Option Value) :
    (testOf op token right).toOption = (testOf op other right).toOption := by
  unfold testOf
  split <;> try split
  all_goals rfl

theorem toOption_eq_cases {ε α : Type} {x y : Except ε α} (h : x.toOption = y.toOption) :
    (∃ a, x = .ok a ∧ y = .ok a) ∨ ∃ e e', x = .error e ∧ y = .error e' := by
  cases x with
  | error e =>
      cases y with
      | error e' => exact .inr ⟨e, e', rfl, rfl⟩
      | ok b => cases h
  | ok a =>
      cases y with
      | error e' => cases h
      | ok b =>
          cases h
          exact .inl ⟨a, rfl, rfl⟩

theorem toOption_bind {ε α β : Type} {x y : Except ε α} {f g : α → Except ε β}
    (h : x.toOption = y.toOption) (hfg : ∀ a, (f a).toOption = (g a).toOption) :
    (x >>= f).toOption = (y >>= g).toOption := by
  rcases toOption_eq_cases h with ⟨a, rfl, rfl⟩ | ⟨e, e', rfl, rfl⟩
  · exact hfg a
  · rfl

/-- Only the errors of a node tell by which token it is written. -/
theorem toOption_ofNode (options : CompileOptions) (name token other : String)
    (operands : List Value) (children : List Query) :
    (ofNode options name ⟨token, operands⟩ children).toOption =
      (ofNode options name ⟨other, operands⟩ children).toOption := by
  have hpath : (pathOf options.chain token operands.head?).toOption =
      (pathOf options.chain other operands.head?).toOption := by
    rw [← Expression.path?_eq, ← Expression.path?_eq]
  unfold ofNode
  split
  · rfl
  · split
    · next op _ =>
        cases op with
        | combine c =>
            simp only [ofOperator]
            split <;> rfl
        | quantify q =>
            apply toOption_bind hpath
            intro path
            cases children[1]? <;> rfl
        | _ =>
            apply toOption_bind hpath
            intro path
            exact toOption_bind (toOption_testOf _ _ _ _) fun _ => rfl
    · rfl

end Query

namespace Expression

/-- With a negation mark in front of its token, a node is invalid as before or the
negation of what it was. -/
theorem read_mark (options : CompileOptions) {token : String} (operands : List Value)
    (h : Token.resolve token = ⟨token, false⟩)
    (hmark : Token.resolve ("!" ++ token) = ⟨token, true⟩) :
    Query.read options (.array (.string ("!" ++ token) :: operands)) =
        .negated ("!" ++ token) (Query.read options (.array (.string token :: operands))) ∨
      ∃ e e', Query.read options (.array (.string token :: operands)) = .invalid e ∧
        Query.read options (.array (.string ("!" ++ token) :: operands)) = .invalid e' := by
  rcases Query.toOption_eq_cases (Query.toOption_ofNode options token token ("!" ++ token)
    operands (Query.readAll options operands)) with ⟨q, hplain, hneg⟩ | ⟨e, e', hplain, hneg⟩
  · have hread : Query.read options (.array (.string token :: operands)) = q := by
      rw [Query.read_of_ok (by rw [h, hplain]), h]
      rfl
    left
    rw [Query.read_of_ok (by rw [hmark, hneg]), hmark, hread]
    rfl
  · refine .inr ⟨e, e', ?_, ?_⟩
    · exact Query.read_of_error (by rw [h, hplain])
    · exact Query.read_of_error (by rw [hmark, hneg])

theorem read_of_path (options : CompileOptions) (token : String) (operands : List Value)
    {op : Operator} {t : Test (List Value) Pattern}
    (hatomic : Token.resolve token = ⟨token, false⟩)
    (hidentifier : Registry.isIdentifier token = false)
    (ho : Operator.ofToken? token = some op) (hc : ∀ c, op ≠ .combine c)
    (hq : ∀ q, op ≠ .quantify q) (ht : Query.testOf op token operands[1]? = .ok t) :
    Query.read options (.array (.string token :: operands)) =
      match Query.pathOf options.chain token operands.head? with
      | .ok path => .test path t
      | .error e => .invalid e := by
  have hregistry : options.registry.get? (Token.resolve token).name = none := by
    rw [hatomic, Registry.get?, hidentifier]
    rfl
  have hop : Operator.ofToken? (Token.resolve token).name = some op := by rw [hatomic, ho]
  have hnode : Query.ofNode options (Token.resolve token).name ⟨token, operands⟩
      (Query.readAll options operands) = (do
        let path ← Query.pathOf options.chain token operands.head?
        return .test path t) := by
    rw [Query.ofNode_builtIn hregistry hop, Query.ofOperator_test hc hq]
    simp only [Expression.left?, Expression.right?, ht]
    rfl
  cases hpath : Query.pathOf options.chain token operands.head? with
  | error e =>
      rw [Query.read_of_error (e := e) (by rw [hnode, hpath]; rfl)]
  | ok path =>
      rw [Query.read_of_ok (q := .test path t) (by rw [hnode, hpath]; rfl), hatomic]
      rfl

/-- The tokens `!` and `!!` make opposite tests of the value of a path. -/
theorem read_bang (options : CompileOptions) (operands : List Value) :
    (∃ path, Query.read options (.array (.string "!" :: operands)) = .test path .falsy ∧
        Query.read options (.array (.string "!!" :: operands)) = .test path .truthy) ∨
      ∃ e e', Query.read options (.array (.string "!" :: operands)) = .invalid e ∧
        Query.read options (.array (.string "!!" :: operands)) = .invalid e' := by
  have hfalsy := read_of_path options "!" operands (by decide) (by decide)
    (show Operator.ofToken? "!" = some .falsy by decide) (by simp) (by simp) rfl
  have htruthy := read_of_path options "!!" operands (by decide) (by decide)
    (show Operator.ofToken? "!!" = some .truthy by decide) (by simp) (by simp) rfl
  have hpath : (Query.pathOf options.chain "!" operands.head?).toOption =
      (Query.pathOf options.chain "!!" operands.head?).toOption := by
    rw [← path?_eq, ← path?_eq]
  rcases Query.toOption_eq_cases hpath with ⟨path, hone, htwo⟩ | ⟨e, e', hone, htwo⟩
  · rw [hone] at hfalsy
    rw [htwo] at htruthy
    exact .inl ⟨path, hfalsy, htruthy⟩
  · rw [hone] at hfalsy
    rw [htwo] at htruthy
    exact .inr ⟨e, e', hfalsy, htruthy⟩

end Expression

namespace Query

/-- One query is the complement of another: it has the same literals, and it
gives the opposite answers, unless the other is degraded, in which case it never
matches. -/
structure Complements (r q : Query) : Prop where
  hoisted_eq : r.hoisted = q.hoisted
  predicate_eq : q.isDegraded = true → ∀ slot, r.predicate slot = .never
  eval_eq : q.isDegraded = false → ∀ scope, r.eval scope = (q.eval scope).map (! ·)

theorem complements_negated (token : String) (q : Query) : (negated token q).Complements q where
  hoisted_eq := rfl
  predicate_eq h slot := by rw [predicate, if_pos h]
  eval_eq h scope := by rw [eval, h, if_neg (by simp)]

theorem complements_invalid (e e' : CompileError) : (invalid e').Complements (invalid e) where
  hoisted_eq := rfl
  predicate_eq _ _ := rfl
  eval_eq h := by cases h

theorem complements_truthy (path : Path) :
    (test path .truthy).Complements (test path .falsy) where
  hoisted_eq := rfl
  predicate_eq h := by cases h
  eval_eq _ scope := by
    rw [eval, eval]
    cases path.resolve scope with
    | error e => rfl
    | ok v =>
        change Except.ok (v.any Value.isTruthy) = Except.ok (!!v.any Value.isTruthy)
        rw [Bool.not_not]

end Query

namespace Expression

theorem complements_mark (options : CompileOptions) {token : String} (operands : List Value)
    (h : (Token.resolve token).negated = false) (h₀ : token ≠ "") (h₁ : token ≠ "=")
    (h₂ : token ≠ "==") :
    (Query.read options (.array (.string ("!" ++ token) :: operands))).Complements
      (Query.read options (.array (.string token :: operands))) := by
  by_cases hbang : token = "!"
  · subst hbang
    rcases read_bang options operands with ⟨path, hq, hr⟩ | ⟨e, e', hq, hr⟩
    · have hr' : Query.read options (.array (.string ("!" ++ "!") :: operands)) =
          .test path .truthy := hr
      rw [hq, hr']
      exact Query.complements_truthy path
    · have hr' : Query.read options (.array (.string ("!" ++ "!") :: operands)) =
          .invalid e' := hr
      rw [hq, hr']
      exact Query.complements_invalid e e'
  · have hmark := Token.resolve_mark (Token.isAtomic_mark h₀ hbang h₁ h₂) h₀
    rcases read_mark options operands (Token.resolve_of_not_negated h) hmark with
      hr | ⟨e, e', hq, hr⟩
    · rw [hr]
      exact Query.complements_negated _ _
    · rw [hq, hr]
      exact Query.complements_invalid e e'

/-- A node and the one with a negation mark in front of its token have the same
literals. If the first or a node below it is given up, the second never matches;
otherwise the second gives the opposite answers, and the same faults. -/
theorem compile_mark (chain : Bool) (registry : Registry) (token : String)
    (operands : List Value) (h : (Token.resolve token).negated = false) (h₀ : token ≠ "")
    (h₁ : token ≠ "=") (h₂ : token ≠ "==") :
    ∃ p p', (Program.compile ⟨chain, false, registry⟩
          (.array (.string token :: operands))).outcome = .ok p ∧
      (Program.compile ⟨chain, false, registry⟩
          (.array (.string ("!" ++ token) :: operands))).outcome = .ok p' ∧
      p'.table = p.table ∧
      (0 < (Query.compileExpression ⟨chain, false, registry⟩
          (.array (.string token :: operands)) 0).2.degraded ↔
        isDegraded ⟨chain, false, registry⟩ (.array (.string token :: operands)) = true) ∧
      (isDegraded ⟨chain, false, registry⟩ (.array (.string token :: operands)) = true →
        p'.root = .never) ∧
      (isDegraded ⟨chain, false, registry⟩ (.array (.string token :: operands)) = false →
        ∀ record position, p'.answer record position =
          (p.answer record position).map (! ·)) := by
  have hc := complements_mark ⟨chain, false, registry⟩ operands h h₀ h₁ h₂
  refine ⟨_, _, Program.outcome_compile_lenient chain registry _,
    Program.outcome_compile_lenient chain registry _, hc.hoisted_eq, ?_, ?_, ?_⟩
  · rw [Query.compileExpression_apply _ _ _ (by simp), Draft.append_eq, ← isDegraded_read]
    exact Query.degraded_draft_pos _ 0
  · intro hd
    rw [← isDegraded_read] at hd
    exact hc.predicate_eq hd 0
  · intro hd record position
    rw [← isDegraded_read] at hd
    rw [Query.answer_program, Query.answer_program]
    exact hc.eval_eq hd _

/-- `!=` has no negation mark, so `!!=` negates it, and equality answers. -/
theorem compile_mark_ne : (Token.resolve "!=").negated = false ∧ "!=" ≠ "" ∧ "!=" ≠ "=" ∧
    "!=" ≠ "==" ∧
    ∃ p p', (Program.compile ⟨false, false, []⟩
          (.array [.string "!=", .string ".a", .integer 1])).outcome = .ok p ∧
      (Program.compile ⟨false, false, []⟩
          (.array [.string "!!=", .string ".a", .integer 1])).outcome = .ok p' ∧
      p'.table = p.table ∧
      ∀ record position, p'.answer record position =
        (p.answer record position).map (! ·) := by
  refine ⟨by decide, by decide, by decide, by decide, ?_⟩
  obtain ⟨p, p', hp, hp', htable, -, -, hanswer⟩ := compile_mark false [] "!="
    [.string ".a", .integer 1] (by decide) (by decide) (by decide) (by decide)
  exact ⟨p, p', hp, hp', htable, hanswer (by rfl)⟩

end Expression

end RecordFilter
