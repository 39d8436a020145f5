import RecordFilter.Proofs.Layout.Image

/-!
# The slots of a predicate

`tests` are the tests of a predicate from left to right, those in the bodies of
quantifiers included, and `slots` are the slots that they refer to. The compiled form of
a query refers to the slots of its literals in ascending order, each of them at most
once (`Query.slots_predicate_sublist`). Where a negation is given up, the literals below
it stay in the table and no test refers to them; if nothing is given up, no slot is left
out (`Query.slots_predicate`). Placing a predicate in a layout may lose tests, and it
leaves the others as they are.

A query that is compiled behind other literals comes to the same predicate with its
slots shifted (`Query.predicate_add`), and this survives placing as well.
-/

namespace RecordFilter

namespace Test

def slot? : Test Slot Slot → Option Slot
  | member slot => some slot
  | pattern slot => some slot
  | _ => none

def shift (n : Nat) : Test Slot Slot → Test Slot Slot
  | compare op literal => compare op literal
  | range interval min max => range interval min max
  | truthy => truthy
  | falsy => falsy
  | member slot => member (slot + n)
  | text op needle => text op needle
  | pattern slot => pattern (slot + n)
  | type t => type t

theorem atSlot_add (t : Test (List Value) Pattern) (slot n : Nat) :
    t.atSlot (slot + n) = (t.atSlot slot).shift n := by
  cases t <;> rfl

theorem filterMap_slot?_atSlot (t : Test (List Value) Pattern) (slot : Slot) :
    [t.atSlot slot].filterMap slot? = List.range' slot t.hoisted.length := by
  cases t <;> rfl

end Test

namespace Predicate

mutual

def tests : Predicate → List (Test Slot Slot)
  | never => []
  | combine _ children => testsAll children
  | not body => body.tests
  | quantify _ _ body => body.tests
  | test _ t => [t]
  | custom _ _ _ => []

def testsAll : List Predicate → List (Test Slot Slot)
  | [] => []
  | p :: ps => p.tests ++ testsAll ps

end

def slots (p : Predicate) : List Slot := p.tests.filterMap Test.slot?

mutual

def shift (n : Nat) : Predicate → Predicate
  | never => never
  | combine c children => combine c (shiftAll n children)
  | not body => not (body.shift n)
  | quantify path q body => quantify path q (body.shift n)
  | test path t => test path (t.shift n)
  | custom name op config => custom name op config

def shiftAll (n : Nat) : List Predicate → List Predicate
  | [] => []
  | p :: ps => p.shift n :: shiftAll n ps

end

theorem tests_combineAll (c : Combinator) (ps : List Predicate) :
    (combineAll c ps).tests = testsAll ps := by
  match ps with
  | [] => rfl
  | [p] => exact (List.append_nil _).symm
  | _ :: _ :: _ => rfl

theorem shift_combineAll (n : Nat) (c : Combinator) (ps : List Predicate) :
    (combineAll c ps).shift n = combineAll c (shiftAll n ps) := by
  match ps with
  | [] => rfl
  | [_] => rfl
  | _ :: _ :: _ => rfl

theorem orNever_map_shift (n : Nat) (x : Except CompileError Predicate) :
    orNever (x.map (shift n)) = (orNever x).shift n := by
  cases x <;> rfl

end Predicate

namespace Query

mutual

/-- The compiled form of a query refers to slots of its literals in ascending order. -/
theorem slots_predicate_sublist (q : Query) (slot : Slot) :
    (q.predicate slot).slots.Sublist (List.range' slot q.hoisted.length) := by
  match q with
  | invalid _ | custom _ _ _ => exact List.nil_sublist _
  | negated _ body =>
      rw [predicate]
      split
      · exact List.nil_sublist _
      · exact slots_predicate_sublist body slot
  | combine c children =>
      rw [predicate, Predicate.slots, Predicate.tests_combineAll]
      exact slots_predicates_sublist children slot
  | quantify _ _ body => exact slots_predicate_sublist body slot
  | test _ t =>
      rw [predicate, Predicate.slots, Predicate.tests, t.filterMap_slot?_atSlot]
      exact List.Sublist.refl _

theorem slots_predicates_sublist (qs : List Query) (slot : Slot) :
    ((Predicate.testsAll (predicates slot qs)).filterMap Test.slot?).Sublist
      (List.range' slot (hoistedAll qs).length) := by
  match qs with
  | [] => exact List.nil_sublist _
  | q :: qs =>
      rw [predicates, Predicate.testsAll, List.filterMap_append, hoistedAll, List.length_append,
        ← List.range'_append_1]
      exact (slots_predicate_sublist q slot).append (slots_predicates_sublist qs _)

end

mutual

/-- If nothing in a query is given up, its compiled form refers to every slot of its
literals. -/
theorem slots_predicate (q : Query) (slot : Slot) (h : q.isDegraded = false) :
    (q.predicate slot).slots = List.range' slot q.hoisted.length := by
  match q with
  | negated _ body =>
      have hbody : body.isDegraded = false := h
      rw [predicate, hbody]
      exact slots_predicate body slot h
  | combine c children =>
      rw [predicate, Predicate.slots, Predicate.tests_combineAll]
      exact slots_predicates children slot h
  | quantify _ _ body => exact slots_predicate body slot h
  | test _ t => exact t.filterMap_slot?_atSlot slot
  | custom _ _ _ => rfl

theorem slots_predicates (qs : List Query) (slot : Slot) (h : anyDegraded qs = false) :
    (Predicate.testsAll (predicates slot qs)).filterMap Test.slot? =
      List.range' slot (hoistedAll qs).length := by
  match qs with
  | [] => rfl
  | q :: qs =>
      rw [anyDegraded, Bool.or_eq_false_iff] at h
      have hq : (q.predicate slot).tests.filterMap Test.slot? = _ := slots_predicate q slot h.1
      rw [predicates, Predicate.testsAll, List.filterMap_append, hq, slots_predicates qs _ h.2,
        hoistedAll, List.length_append, List.range'_append_1]

end

mutual

/-- Behind some more literals the compiled form is shifted. -/
theorem predicate_add (q : Query) (slot n : Nat) :
    q.predicate (slot + n) = (q.predicate slot).shift n := by
  match q with
  | invalid _ => rfl
  | negated _ body =>
      rw [predicate, predicate, predicate_add body slot n]
      split <;> rfl
  | combine c children =>
      rw [predicate, predicate, Predicate.shift_combineAll, predicates_add children slot n]
  | quantify _ _ body => rw [predicate, predicate, Predicate.shift, predicate_add body slot n]
  | test _ t => rw [predicate, predicate, Predicate.shift, t.atSlot_add]
  | custom _ _ _ => rfl

theorem predicates_add (qs : List Query) (slot n : Nat) :
    predicates (slot + n) qs = Predicate.shiftAll n (predicates slot qs) := by
  match qs with
  | [] => rfl
  | q :: qs =>
      rw [predicates, predicates, Predicate.shiftAll, predicate_add q slot n, Nat.add_right_comm,
        predicates_add qs (slot + q.hoisted.length) n]

end

end Query

namespace Layout

variable {layout : Layout}

mutual

theorem tests_image_sublist (p : Predicate) :
    (Predicate.orNever (layout.image? p)).tests.Sublist p.tests := by
  match p with
  | .never | .custom _ _ _ => exact List.nil_sublist _
  | .combine _ children => exact testsAll_images_sublist children
  | .not body =>
      have hbody := tests_image_sublist body
      rw [image?]
      cases himage : layout.image? body with
      | error e => exact List.nil_sublist _
      | ok body' =>
          rw [himage] at hbody
          exact hbody
  | .quantify path _ _ | .test path _ =>
      rw [image?]
      cases layout.placePath path with
      | error e => exact List.nil_sublist _
      | ok path' => exact List.Sublist.refl _

theorem testsAll_images_sublist (ps : List Predicate) :
    (Predicate.testsAll (layout.images ps)).Sublist (Predicate.testsAll ps) := by
  match ps with
  | [] => exact List.nil_sublist _
  | p :: ps => exact (tests_image_sublist p).append (testsAll_images_sublist ps)

end

mutual

theorem tests_image (p : Predicate) (h : layout.fits p = true) :
    (Predicate.orNever (layout.image? p)).tests = p.tests := by
  match p with
  | .never => rfl
  | .combine _ children => exact testsAll_images children h
  | .not body =>
      have hbody := tests_image body h
      obtain ⟨body', himage⟩ := exists_image_of_fits (p := body) h
      rw [himage] at hbody
      rw [image?, himage]
      exact hbody
  | .quantify path _ _ | .test path _ =>
      obtain ⟨path', hpath⟩ := exists_of_fitsPath h
      rw [image?, hpath]
      rfl

theorem testsAll_images (ps : List Predicate) (h : layout.fitsAll ps = true) :
    Predicate.testsAll (layout.images ps) = Predicate.testsAll ps := by
  match ps with
  | [] => rfl
  | p :: ps =>
      rw [fitsAll, Bool.and_eq_true] at h
      rw [images, Predicate.testsAll, Predicate.testsAll, tests_image p h.1,
        testsAll_images ps h.2]

end

mutual

theorem image?_shift (p : Predicate) (n : Nat) :
    layout.image? (p.shift n) = (layout.image? p).map (Predicate.shift n) := by
  match p with
  | .never | .custom _ _ _ => rfl
  | .combine c children =>
      rw [Predicate.shift, image?, images_shiftAll children n]
      rfl
  | .not body =>
      rw [Predicate.shift, image?, image?, image?_shift body n]
      cases layout.image? body <;> rfl
  | .quantify path _ _ | .test path _ =>
      rw [Predicate.shift, image?, image?]
      cases layout.placePath path <;> rfl

theorem images_shiftAll (ps : List Predicate) (n : Nat) :
    layout.images (Predicate.shiftAll n ps) = Predicate.shiftAll n (layout.images ps) := by
  match ps with
  | [] => rfl
  | p :: ps =>
      rw [Predicate.shiftAll, images, images, Predicate.shiftAll, image?_shift p n,
        Predicate.orNever_map_shift, images_shiftAll ps n]

end

mutual

theorem fits_shift (p : Predicate) (n : Nat) : layout.fits (p.shift n) = layout.fits p := by
  match p with
  | .never | .quantify _ _ _ | .test _ _ | .custom _ _ _ => rfl
  | .combine _ children => exact fitsAll_shiftAll children n
  | .not body => exact fits_shift body n

theorem fitsAll_shiftAll (ps : List Predicate) (n : Nat) :
    layout.fitsAll (Predicate.shiftAll n ps) = layout.fitsAll ps := by
  match ps with
  | [] => rfl
  | p :: ps =>
      rw [Predicate.shiftAll, fitsAll, fitsAll, fits_shift p n, fitsAll_shiftAll ps n]

end

theorem fits_combineAll (c : Combinator) (ps : List Predicate) :
    layout.fits (.combineAll c ps) = layout.fitsAll ps := by
  match ps with
  | [] => rfl
  | [p] => exact (Bool.and_true _).symm
  | _ :: _ :: _ => rfl

end Layout

end RecordFilter
