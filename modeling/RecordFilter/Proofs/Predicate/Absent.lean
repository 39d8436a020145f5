import RecordFilter.Predicate.Eval

/-!
# Rows without cells

In a row past the end of all columns there is nothing but its position: all cells are
absent. What a predicate answers there can be read off it (`Predicate.pastEnd?`), where
none stands for a fault, and it is what evaluation comes to (`toOption_eval_ofRow_nil`).

An absent value equals null loosely and nothing strictly, has no order, is falsy, and
shows as `undefined` to a pattern. Substring tests and quantifiers fault on it
(`Test.onAbsent?`). A path comes to the absent value if it has no steps or begins with a
null-safe one, and faults otherwise. The position itself is there, but it has no parts, so
behind `$i` this is decided one step later (`Path.pastEnd?`).
-/

namespace RecordFilter

/-- What the test answers of an absent value. -/
def Test.onAbsent? : Test MemberSet Pattern → Option Bool
  | compare .eq .null => some true
  | compare .ne .null => some false
  | compare .ne _ => some true
  | compare .strictNe _ => some true
  | compare _ _ => some false
  | range _ _ _ => some false
  | truthy => some false
  | falsy => some true
  | member _ => some false
  | text _ _ => none
  | pattern p => some (p.isMatch "undefined")
  | type _ => some false

theorem Test.toOption_holds_none (t : Test MemberSet Pattern) :
    (t.holds none).toOption = t.onAbsent? := by
  cases t with
  | compare op literal => cases op <;> cases literal <;> rfl
  | range interval min max => cases interval <;> rfl
  | type t => cases t <;> rfl
  | truthy | falsy | member _ | text _ _ | pattern _ => rfl

namespace Path

def passesAbsent (ss : List Step) : Bool := ss.head?.all Step.optional

theorem toOption_follow_none (path : Path) (ss : List Step) :
    (path.follow ss none).toOption = if passesAbsent ss then some none else none := by
  cases ss with
  | nil => rfl
  | cons s rest =>
      rw [follow, passesAbsent, List.head?_cons, Option.all_some]
      cases s.optional <;> rfl

/-- The value that the path leads to past the end of all columns. -/
def pastEnd? (row : Position) : Path → Option (Option Value)
  | ⟨.index, []⟩ => some (some (.integer row.toInt64))
  | ⟨.index, _ :: rest⟩ => if passesAbsent rest then some none else none
  | ⟨_, steps⟩ => if passesAbsent steps then some none else none

theorem toOption_resolve_ofRow_nil (row : Position) (path : Path) :
    (path.resolve (.ofRow [] row)).toOption = path.pastEnd? row := by
  match path with
  | ⟨.index, []⟩ => rfl
  | ⟨.index, s :: rest⟩ =>
      have hlookup : s.key.lookup (.integer row.toInt64) = none := by cases s.key <;> rfl
      change (follow _ rest (s.key.lookup (.integer row.toInt64))).toOption = _
      rw [hlookup, toOption_follow_none, pastEnd?]
  | ⟨.record, steps⟩ | ⟨.column n, steps⟩ => exact toOption_follow_none _ steps

theorem ne_array_of_pastEnd? {row : Position} {path : Path} {v : Option Value}
    (h : path.pastEnd? row = some v) (items : List Value) : v ≠ some (.array items) := by
  unfold pastEnd? at h
  split at h
  · cases h
    nofun
  · split at h
    · cases h
      nofun
    · cases h
  · split at h
    · cases h
      nofun
    · cases h

end Path

namespace Predicate

mutual

/-- What the predicate answers past the end of all columns. -/
def pastEnd? (table : HoistTable) (row : Position) : Predicate → Option Bool
  | never => some false
  | combine c children => pastEndAll? table row c children
  | not body => (pastEnd? table row body).map (! ·)
  | quantify _ _ _ => none
  | test path t =>
    match t.fetch? table with
    | none => some false
    | some t => (path.pastEnd? row).bind fun
      | none => t.onAbsent?
      | some v => (t.holds (some v)).toOption
  | custom _ op config => some (op .null row config)

def pastEndAll? (table : HoistTable) (row : Position) (c : Combinator) :
    List Predicate → Option Bool
  | [] => some c.neutral
  | p :: ps => (pastEnd? table row p).bind fun answer =>
    if answer = c.neutral then pastEndAll? table row c ps else some answer

end

theorem toOption_scan_of_pastEnd? {row : Position} {path : Path} {v : Option Value}
    (h : path.pastEnd? row = some v) (q : Quantifier) (ask : Scope → Except EvalError Bool) :
    (q.scan ask v).toOption = none := by
  unfold Quantifier.scan
  split
  · next items => exact absurd rfl (Path.ne_array_of_pastEnd? h items)
  · rfl

mutual

theorem toOption_eval_ofRow_nil (table : HoistTable) (row : Position) (p : Predicate) :
    (p.eval table (.ofRow [] row)).toOption = p.pastEnd? table row := by
  match p with
  | never => rfl
  | combine c children => exact toOption_evalAll_ofRow_nil table row c children
  | not body =>
      rw [eval, pastEnd?, ← toOption_eval_ofRow_nil table row body]
      cases body.eval table (.ofRow [] row) <;> rfl
  | quantify path q body =>
      have hpath := path.toOption_resolve_ofRow_nil row
      rw [eval, pastEnd?]
      cases hv : path.resolve (.ofRow [] row) with
      | error e => rfl
      | ok v =>
          rw [hv] at hpath
          exact toOption_scan_of_pastEnd? hpath.symm q _
  | test path t =>
      rw [eval, evalTest, pastEnd?]
      cases t.fetch? table with
      | none => rfl
      | some t =>
          rw [← path.toOption_resolve_ofRow_nil row]
          cases path.resolve (.ofRow [] row) with
          | error e => rfl
          | ok v =>
              cases v with
              | none => exact t.toOption_holds_none
              | some v => rfl
  | custom _ op config => rfl

theorem toOption_evalAll_ofRow_nil (table : HoistTable) (row : Position) (c : Combinator)
    (ps : List Predicate) :
    (evalAll table c ps (.ofRow [] row)).toOption = pastEndAll? table row c ps := by
  match ps with
  | [] => rfl
  | p :: ps =>
      rw [evalAll_cons, pastEndAll?, ← toOption_eval_ofRow_nil table row p,
        ← toOption_evalAll_ofRow_nil table row c ps]
      cases p.eval table (.ofRow [] row) with
      | error e => rfl
      | ok answer =>
          change (if answer = c.neutral then _ else _ : Except EvalError Bool).toOption =
            if answer = c.neutral then _ else _
          split <;> rfl

end

end Predicate

end RecordFilter
