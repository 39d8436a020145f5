import RecordFilter.Proofs.Expression.Meaning
import RecordFilter.Proofs.Query.Repair

/-!
# Repairing an expression

A lenient compilation gives up the nodes that cannot be compiled. Had they been
written as they should be, whatever this is, the filter would let through at least
the records that it lets through now, apart from those on which it would fault
(`accepts_of_repairedTo`). So leniency never shows what a correct expression hides.

`RepairedTo` is about expressions as they are written: each outermost node that
cannot be compiled is replaced, and nothing else. What stands below such a node is
no matter, for its operands are not looked at.
-/

namespace RecordFilter

namespace Expression

/-- A value that cannot be compiled as a node, whatever may stand below it. -/
def IsInvalid (options : CompileOptions) (v : Value) : Prop :=
  ∃ error, Query.read options v = .invalid error

/-- What an expression becomes if each outermost node that cannot be compiled is
replaced by an expression in which every node can be. -/
inductive RepairedTo (options : CompileOptions) : Value → Value → Prop where
  | intact {v : Value} (h : isDegraded options v = false) : RepairedTo options v v
  | replaced {v w : Value} (hv : IsInvalid options v) (hw : isDegraded options w = false) :
    RepairedTo options v w
  | combine {token : String} {c : Combinator} {vs ws : List Value}
    (hregistry : options.registry.get? (Token.resolve token).name = none)
    (hop : Operator.ofToken? (Token.resolve token).name = some (.combine c))
    (hne : vs ≠ []) (h : List.Forall₂ (RepairedTo options) vs ws) :
    RepairedTo options (.array (.string token :: vs)) (.array (.string token :: ws))
  | quantify {token : String} {q : Quantifier} {path : Path} {left v w : Value}
    {rest : List Value} (hregistry : options.registry.get? (Token.resolve token).name = none)
    (hop : Operator.ofToken? (Token.resolve token).name = some (.quantify q))
    (hpath : path? options.chain (left :: v :: rest) = some path) (h : RepairedTo options v w) :
    RepairedTo options (.array (.string token :: left :: v :: rest))
      (.array (.string token :: left :: w :: rest))

end Expression

theorem Query.RepairedTo.mark {q r : Query} (h : q.RepairedTo r) (negated : Bool)
    (token : String) :
    (if negated then Query.negated token q else q).RepairedTo
      (if negated then Query.negated token r else r) := by
  cases negated with
  | true => exact .negated h
  | false => exact h

namespace Expression

variable {options : CompileOptions}

mutual

theorem read_repairedTo {v w : Value} (h : RepairedTo options v w) :
    (Query.read options v).RepairedTo (Query.read options w) := by
  match v, h with
  | _, .intact hv =>
      apply Query.RepairedTo.intact
      rw [isDegraded_read, hv]
  | _, .replaced ⟨error, hv⟩ hw =>
      rw [hv]
      apply Query.RepairedTo.replaced
      rw [isDegraded_read, hw]
  | .array (.string token :: vs), @RepairedTo.combine _ _ _ _ ws hregistry hop hne hall =>
      have hne' : ws ≠ [] := by
        rintro rfl
        exact hne (List.forall₂_nil_right_iff.1 hall)
      rw [read_combine hregistry hop hne, read_combine hregistry hop hne']
      exact (Query.RepairedTo.combine (readAll_repairedTo hall)).mark _ _
  | .array (.string token :: left :: body :: rest), .quantify hregistry hop hpath hbody =>
      rw [read_quantify hregistry hop hpath,
        read_quantify hregistry hop (by rw [path?_cons, hpath])]
      exact (Query.RepairedTo.quantify (read_repairedTo hbody)).mark _ _

theorem readAll_repairedTo {vs ws : List Value} (h : List.Forall₂ (RepairedTo options) vs ws) :
    List.Forall₂ Query.RepairedTo (Query.readAll options vs) (Query.readAll options ws) := by
  match vs, h with
  | _, .nil => exact .nil
  | v :: vs, .cons hhead htail =>
      exact .cons (read_repairedTo hhead) (readAll_repairedTo htail)

end

/-- A repaired expression can be compiled in every node, and its lenient program lets
through every record that the lenient program of the expression lets through, unless
it faults on the record. -/
theorem accepts_of_repairedTo (chain : Bool) (registry : Registry) {v w : Value}
    (h : RepairedTo ⟨chain, false, registry⟩ v w) :
    isDegraded ⟨chain, false, registry⟩ w = false ∧
      ∃ p p', (Program.compile ⟨chain, false, registry⟩ v).outcome = .ok p ∧
        (Program.compile ⟨chain, false, registry⟩ w).outcome = .ok p' ∧
        ∀ record position, p.accepts record position = true →
          (∀ error, p'.answer record position ≠ .error error) →
            p'.accepts record position = true := by
  have hread := read_repairedTo h
  refine ⟨?_, _, _, Program.outcome_compile_lenient chain registry v,
    Program.outcome_compile_lenient chain registry w, ?_⟩
  · rw [← isDegraded_read]
    exact Query.isDegraded_of_repairedTo hread
  · intro record position haccepts hfault
    rw [Program.accepts, Query.answer_program] at haccepts ⊢
    rw [Query.answer_program] at hfault
    have hwidens := Query.widens_of_repairedTo hread (.ofRecord record position)
    cases hw : (Query.read ⟨chain, false, registry⟩ w).eval (.ofRecord record position) with
    | error e => exact absurd hw (hfault e)
    | ok answer =>
        cases hv : (Query.read ⟨chain, false, registry⟩ v).eval (.ofRecord record position) with
        | error e =>
            rw [hv] at haccepts
            cases haccepts
        | ok b =>
            rw [hv] at haccepts hwidens
            cases haccepts
            exact hwidens rfl answer hw

/-- A negated conjunction below a disjunction is repaired and then tells one record
from another. -/
theorem accepts_of_repairedTo_negated :
    RepairedTo ⟨false, false, []⟩
        (.array [.string "||", .array [.string "==", .string ".a", .integer 1],
          .array [.string "!&&", .array [.string "unknown"]]])
        (.array [.string "||", .array [.string "==", .string ".a", .integer 1],
          .array [.string "!&&", .array [.string "==", .string ".b", .integer 2]]]) ∧
      ∃ p p', (Program.compile ⟨false, false, []⟩
            (.array [.string "||", .array [.string "==", .string ".a", .integer 1],
              .array [.string "!&&", .array [.string "unknown"]]])).outcome = .ok p ∧
        (Program.compile ⟨false, false, []⟩
            (.array [.string "||", .array [.string "==", .string ".a", .integer 1],
              .array [.string "!&&", .array [.string "==", .string ".b", .integer 2]]])).outcome =
          .ok p' ∧
        p.accepts (.object [("a", .integer 1)]) 0 = true ∧
        (∀ error, p'.answer (.object [("a", .integer 1)]) 0 ≠ .error error) ∧
        p'.accepts (.object [("a", .integer 1)]) 0 = true := by
  have hrepaired : RepairedTo ⟨false, false, []⟩
      (.array [.string "||", .array [.string "==", .string ".a", .integer 1],
        .array [.string "!&&", .array [.string "unknown"]]])
      (.array [.string "||", .array [.string "==", .string ".a", .integer 1],
        .array [.string "!&&", .array [.string "==", .string ".b", .integer 2]]]) := by
    apply RepairedTo.combine (c := .any) rfl rfl (by simp)
    refine .cons (.intact rfl) (.cons ?_ .nil)
    apply RepairedTo.combine (c := .all) rfl rfl (by simp)
    exact .cons (.replaced ⟨_, rfl⟩ rfl) .nil
  obtain ⟨-, p, p', hp, hp', himp⟩ := accepts_of_repairedTo false [] hrepaired
  have haccepts : p.accepts (.object [("a", .integer 1)]) 0 = true := by
    cases hp
    decide
  have hfault : ∀ error, p'.answer (.object [("a", .integer 1)]) 0 ≠ .error error := by
    cases hp'
    intro error h
    cases h
  exact ⟨hrepaired, p, p', hp, hp', haccepts, hfault, himp _ _ haccepts hfault⟩

end Expression

end RecordFilter
