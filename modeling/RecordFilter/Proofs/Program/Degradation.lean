import RecordFilter.Proofs.Layout.Image
import RecordFilter.Proofs.Query.Sites

/-!
# Negation of what has no place

A negated combinator or quantifier is to be given up if anything below it is, for
otherwise it may match what it should not. `Site.Obeys` is this rule for one node of
a query. Compilation keeps it: it gives up every negated node with an invalid node
below (`obeys_of_mem_sites_predicate`).

Placing keeps it only in part. An operand that has no place is given up together
with the nodes around it up to the nearest child of a combinator, so a negation in
between goes with it. A negation further out stays. `overlooks` tells whether a query
has such a negation, and the rule holds of a query that is placed exactly if it has
none (`obey_sites_iff`).
-/

namespace RecordFilter

namespace Query

def isCompound : Query → Bool
  | combine _ _ => true
  | quantify _ _ _ => true
  | _ => false

mutual

/-- Whether an operand outside of the bodies of quantifiers has no place in the
layout. -/
def losesAny (layout : Layout) : Query → Bool
  | invalid _ => false
  | negated _ body => losesAny layout body
  | combine _ children => losesAnyOf layout children
  | quantify path _ _ => !layout.fitsPath path
  | test path _ => !layout.fitsPath path
  | custom _ _ _ => true

def losesAnyOf (layout : Layout) : List Query → Bool
  | [] => false
  | q :: qs => losesAny layout q || losesAnyOf layout qs

end

mutual

/-- Whether the node as a whole has no place in the layout: an operand has none and
there is no combinator of several children between the two. -/
def isLost (layout : Layout) : Query → Bool
  | invalid _ => false
  | negated _ body => !body.isDegraded && isLost layout body
  | combine _ children => isLostAlone layout children
  | quantify path _ _ => !layout.fitsPath path
  | test path _ => !layout.fitsPath path
  | custom _ _ _ => true

def isLostAlone (layout : Layout) : List Query → Bool
  | [q] => isLost layout q
  | _ => false

end

mutual

/-- Whether a negation that compiles has a place although an operand below it has
none. -/
def overlooks (layout : Layout) : Query → Bool
  | negated _ body => !body.isDegraded && !body.isLost layout && body.losesAny layout
  | combine _ children => overlooksAny layout children
  | _ => false

def overlooksAny (layout : Layout) : List Query → Bool
  | [] => false
  | q :: qs => overlooks layout q || overlooksAny layout qs

end

end Query

theorem Layout.operands_image (layout : Layout) (c : Combinator) (ps : List Predicate) :
    (Predicate.orNever (layout.image? (.combineAll c ps))).operands ps.length =
      layout.images ps := by
  match ps with
  | [] => rfl
  | [p] => rfl
  | p :: q :: ps => exact Predicate.operands_combineAll c (layout.images (p :: q :: ps))

/-- The rule for negated nodes: a negated combinator or quantifier is given up if
anything below it is invalid or, outside of the bodies of quantifiers, has no place
in the layout. -/
def Site.Obeys (layout : Layout) (s : Site) : Prop :=
  match s.node with
  | .negated _ body =>
    body.isCompound = true →
      body.isDegraded = true ∨ (s.inBody = false ∧ body.losesAny layout = true) →
        s.outcome = .never
  | _ => True

theorem Site.obeys_of_outcome {layout : Layout} {s : Site} (h : s.outcome = .never) :
    s.Obeys layout := by
  unfold Obeys
  split
  · intro _ _
    exact h
  · trivial

namespace Query

variable {layout : Layout}

mutual

theorem losesAny_of_overlooks (q : Query) (h : q.overlooks layout = true) :
    q.losesAny layout = true := by
  match q with
  | negated _ body =>
      rw [overlooks, Bool.and_eq_true] at h
      exact h.2
  | combine _ children => exact losesAnyOf_of_overlooksAny children h

theorem losesAnyOf_of_overlooksAny (qs : List Query) (h : overlooksAny layout qs = true) :
    losesAnyOf layout qs = true := by
  match qs with
  | q :: qs =>
      rw [overlooksAny, Bool.or_eq_true] at h
      rw [losesAnyOf, Bool.or_eq_true]
      rcases h with h | h
      · exact .inl (losesAny_of_overlooks q h)
      · exact .inr (losesAnyOf_of_overlooksAny qs h)

end

/-- In a node that compiles and has a place, operands without one stand below a
combinator or below a negation that overlooks them. -/
theorem losesAny_eq_false_iff {q : Query} (hvalid : q.isDegraded = false)
    (hplace : q.isLost layout = false) :
    q.losesAny layout = false ↔
      (q.isCompound = true → q.losesAny layout = false) ∧ q.overlooks layout = false := by
  have hoverlooks : q.losesAny layout = false → q.overlooks layout = false := by
    intro h
    rw [← Bool.not_eq_true] at h ⊢
    exact fun ho => h (losesAny_of_overlooks q ho)
  constructor
  · intro h
    exact ⟨fun _ => h, hoverlooks h⟩
  · rintro ⟨hcompound, ho⟩
    cases q with
    | invalid e => cases hvalid
    | negated token body =>
        rw [isDegraded] at hvalid
        rw [isLost, hvalid] at hplace
        have hkept : body.isLost layout = false := hplace
        rw [overlooks, hvalid, hkept] at ho
        exact ho
    | combine c children => exact hcompound rfl
    | quantify path k body => exact hcompound rfl
    | test path t => exact hplace
    | custom name op config => cases hplace

mutual

/-- A node has an image exactly if it is not lost. -/
theorem isSome_image?_predicate (q : Query) (slot : Slot) :
    (layout.image? (q.predicate slot)).toOption.isSome = !q.isLost layout := by
  match q with
  | invalid _ => rfl
  | negated _ body =>
      have hbody := isSome_image?_predicate body slot
      rw [predicate, isLost]
      cases body.isDegraded with
      | true => rfl
      | false =>
          rw [if_neg (by simp), Layout.image?, Bool.not_false, Bool.true_and, ← hbody]
          cases layout.image? (body.predicate slot) <;> rfl
  | combine c children => exact isSome_image?_combineAll c children slot
  | quantify path _ _ | test path _ =>
      rw [predicate, isLost, Layout.image?, Bool.not_not, Layout.fitsPath]
      cases layout.placePath path <;> rfl
  | custom _ _ _ => rfl

theorem isSome_image?_combineAll (c : Combinator) (qs : List Query) (slot : Slot) :
    (layout.image? (.combineAll c (predicates slot qs))).toOption.isSome =
      !isLostAlone layout qs := by
  match qs with
  | [] => rfl
  | [q] => exact isSome_image?_predicate q slot
  | _ :: _ :: _ => rfl

end

mutual

/-- In the body of a quantifier, which is not placed, all nodes obey the rule. -/
theorem obeys_of_mem_sites_predicate (q : Query) (slot : Slot) {s : Site}
    (h : s ∈ sites true q (q.predicate slot)) : s.Obeys layout := by
  match q with
  | negated token body =>
      cases hd : body.isDegraded with
      | true =>
          rw [predicate, hd, if_pos rfl] at h
          exact Site.obeys_of_outcome (outcome_of_mem_sites_never _ _ h)
      | false =>
          rw [predicate, hd, if_neg (by simp)] at h
          rcases List.mem_cons.1 h with rfl | h
          · rintro - (hinvalid | ⟨hbody, -⟩)
            · rw [hd] at hinvalid
              cases hinvalid
            · cases hbody
          · exact obeys_of_mem_sites_predicate body slot h
  | combine c children =>
      rcases List.mem_cons.1 h with rfl | h
      · trivial
      · rw [predicate, ← length_predicates slot, Predicate.operands_combineAll] at h
        exact obeys_of_mem_sitesAll_predicates children slot h
  | quantify path k body =>
      rcases List.mem_cons.1 h with rfl | h
      · trivial
      · exact obeys_of_mem_sites_predicate body slot h
  | invalid _ | test _ _ | custom _ _ _ =>
      rw [List.mem_singleton.1 h]
      trivial

theorem obeys_of_mem_sitesAll_predicates (qs : List Query) (slot : Slot) {s : Site}
    (h : s ∈ sitesAll true qs (predicates slot qs)) : s.Obeys layout := by
  match qs with
  | [] => cases h
  | q :: qs =>
      rw [predicates, sitesAll, List.mem_append] at h
      rcases h with h | h
      · exact obeys_of_mem_sites_predicate q slot h
      · exact obeys_of_mem_sitesAll_predicates qs _ h

end

/-- A negated node that compiles and has a place obeys the rule if it is no compound
or all operands below it have a place. -/
theorem obeys_not_iff {token : String} {body : Query} {p : Predicate}
    (hvalid : body.isDegraded = false) :
    Site.Obeys layout ⟨false, negated token body, .not p⟩ ↔
      (body.isCompound = true → body.losesAny layout = false) := by
  constructor
  · intro h hcompound
    rw [← Bool.not_eq_true]
    intro hloses
    cases h hcompound (.inr ⟨rfl, hloses⟩)
  · rintro h hcompound (hinvalid | ⟨-, hloses⟩)
    · rw [hvalid] at hinvalid
      cases hinvalid
    · rw [h hcompound] at hloses
      cases hloses

theorem obeys_of_mem_sites_never (inBody : Bool) (q : Query) :
    ∀ s ∈ sites inBody q .never, s.Obeys layout := by
  intro s hs
  exact Site.obeys_of_outcome (outcome_of_mem_sites_never inBody q hs)

/-- A negation keeps the rule below it, and at itself unless it overlooks an operand. -/
theorem obey_sites_negated_iff (token : String) {body : Query} {slot : Slot}
    (hbody : (∀ s ∈ sites false body (.orNever (layout.image? (body.predicate slot))),
      s.Obeys layout) ↔ body.overlooks layout = false) :
    (∀ s ∈ sites false (negated token body)
        (.orNever (layout.image? ((negated token body).predicate slot))), s.Obeys layout) ↔
      (negated token body).overlooks layout = false := by
  rw [predicate, overlooks]
  cases hd : body.isDegraded with
  | true =>
      rw [if_pos rfl]
      exact iff_of_true (obeys_of_mem_sites_never false _) rfl
  | false =>
      have hsome : (layout.image? (body.predicate slot)).toOption.isSome =
          !body.isLost layout := isSome_image?_predicate body slot
      rw [if_neg (by simp), Layout.image?]
      cases himage : layout.image? (body.predicate slot) with
      | error e =>
          -- The negation is given up together with its operand.
          have hlost : body.isLost layout = true := by
            simpa [himage, Except.toOption] using hsome
          rw [hlost]
          exact iff_of_true (obeys_of_mem_sites_never false _) rfl
      | ok p =>
          -- The negation stays, so nothing below it may be given up.
          have hplace : body.isLost layout = false := by
            simpa [himage, Except.toOption] using hsome
          rw [himage] at hbody
          change (∀ s ∈ ⟨false, negated token body, .not p⟩ :: sites false body p,
            s.Obeys layout) ↔ _
          rw [List.forall_mem_cons, obeys_not_iff hd, hplace]
          exact (and_congr_right fun _ => hbody).trans (losesAny_eq_false_iff hd hplace).symm

theorem obey_sites_quantify (path : Path) (k : Quantifier) (body : Query) (slot : Slot) :
    ∀ s ∈ sites false (quantify path k body)
      (.orNever (layout.image? ((quantify path k body).predicate slot))), s.Obeys layout := by
  rw [predicate, Layout.image?]
  cases layout.placePath path with
  | error e => exact obeys_of_mem_sites_never false _
  | ok path' =>
      intro s hs
      rcases List.mem_cons.1 hs with rfl | hs
      · trivial
      · exact obeys_of_mem_sites_predicate body slot hs

mutual

/-- The nodes of a query that is placed obey the rule exactly if the query has no
negation that overlooks an operand. -/
theorem obey_sites_iff (q : Query) (slot : Slot) :
    (∀ s ∈ sites false q (.orNever (layout.image? (q.predicate slot))), s.Obeys layout) ↔
      q.overlooks layout = false := by
  match q with
  | negated token body => exact obey_sites_negated_iff token (obey_sites_iff body slot)
  | combine c children =>
      rw [predicate, sites, ← length_predicates slot, Layout.operands_image,
        List.forall_mem_cons]
      exact (and_iff_right trivial).trans (obey_sitesAll_iff children slot)
  | quantify path k body => exact iff_of_true (obey_sites_quantify path k body slot) rfl
  | invalid _ | test _ _ | custom _ _ _ =>
      refine iff_of_true ?_ rfl
      intro s hs
      rw [List.mem_singleton.1 hs]
      trivial

theorem obey_sitesAll_iff (qs : List Query) (slot : Slot) :
    (∀ s ∈ sitesAll false qs (layout.images (predicates slot qs)), s.Obeys layout) ↔
      overlooksAny layout qs = false := by
  match qs with
  | [] => exact iff_of_true (fun _ h => by cases h) rfl
  | q :: qs =>
      have hq := obey_sites_iff q slot
      have hqs := obey_sitesAll_iff qs (slot + q.hoisted.length)
      rw [predicates, Layout.images, sitesAll, overlooksAny, Bool.or_eq_false_iff, ← hq, ← hqs]
      exact List.forall_mem_append

end

end Query

namespace ColumnProgram

/-- Lenient compilation for columns keeps the rule for negated nodes exactly if the
query has no negation that overlooks an operand without a place. -/
theorem compile_lenient_obeys_iff {names : Option (List String)} {layout : Layout}
    (hl : Layout.read names = .ok layout) (chain : Bool) (registry : Registry) (expr : Value) :
    ∃ p, (compile names ⟨chain, false, registry⟩ expr).outcome = .ok p ∧
      ((∀ s ∈ (Query.read ⟨chain, false, registry⟩ expr).sites false p.program.root,
          s.Obeys layout) ↔
        (Query.read ⟨chain, false, registry⟩ expr).overlooks layout = false) := by
  refine ⟨_, outcome_compile hl ⟨chain, false, registry⟩ expr (by simp), ?_⟩
  exact Query.obey_sites_iff _ 0

/-- A negated combinator with an unknown operator below it is given up, whatever else
has no place. -/
theorem compile_lenient_obeys_unknown :
    Layout.read none = .ok ⟨none⟩ ∧
      ∃ p, (compile none ⟨false, false, []⟩ (.array [.string "!&&",
            .array [.string "unknown"],
            .array [.string "==", .string "$", .integer 1]])).outcome = .ok p ∧
        ∀ s ∈ (Query.read ⟨false, false, []⟩ (.array [.string "!&&",
            .array [.string "unknown"],
            .array [.string "==", .string "$", .integer 1]])).sites false p.program.root,
          s.Obeys ⟨none⟩ := by
  have hl : Layout.read none = .ok ⟨none⟩ := rfl
  obtain ⟨p, hp, hobeys⟩ := compile_lenient_obeys_iff hl false []
    (.array [.string "!&&", .array [.string "unknown"],
      .array [.string "==", .string "$", .integer 1]])
  exact ⟨hl, p, hp, hobeys.2 rfl⟩

/-- The negation of a conjunction with a test of the whole record, which has no place,
stays as it is and matches every row. -/
theorem compile_lenient_overlooks_record :
    ∃ p, (compile none ⟨false, false, []⟩ (.array [.string "!&&",
          .array [.string "==", .string "[0]", .integer 1],
          .array [.string "==", .string "$", .integer 1]])).outcome = .ok p ∧
      (¬ ∀ s ∈ (Query.read ⟨false, false, []⟩ (.array [.string "!&&",
          .array [.string "==", .string "[0]", .integer 1],
          .array [.string "==", .string "$", .integer 1]])).sites false p.program.root,
        s.Obeys ⟨none⟩) ∧
      p.accepts [[.integer 1, .integer 2]] 0 = true ∧
      p.accepts [[.integer 1, .integer 2]] 1 = true := by
  refine ⟨_, rfl, ?_, by decide, by decide⟩
  intro h
  cases h _ List.mem_cons_self rfl (.inr ⟨rfl, rfl⟩)

end ColumnProgram

end RecordFilter
