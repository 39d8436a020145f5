import RecordFilter.Predicate.Basic

/-!
# Assembling predicates

Compiling appends literals to a hoist table and reports what happens on the
way. An assembly is a computation that is told the first free slot and answers
with its result, or the error that stopped it, together with a draft: the
literals it appends, the events it reports, and how many nodes it gave up. The
drafts of two computations in a row are appended, and the second one is told
the slot after the literals of the first. So what a part contributes can be
read off its own draft.
-/

namespace RecordFilter

/-- What compilation reports. -/
inductive Event where
  | hoisted (slot : Slot)
  | neverMatches (error : CompileError)
  | negatedNeverMatches (token : String)
  | compiled (nodes hoisted : Nat) (chain : Bool)
  | placed (named : Nat)

/-- What a part of a compilation contributes. -/
structure Draft where
  hoisted : HoistTable
  events : List Event
  degraded : Nat

namespace Draft

def empty : Draft := ⟨[], [], 0⟩

def append (d e : Draft) : Draft :=
  ⟨d.hoisted ++ e.hoisted, d.events ++ e.events, d.degraded + e.degraded⟩

instance : Append Draft := ⟨append⟩

theorem append_eq (d e : Draft) :
    d ++ e = ⟨d.hoisted ++ e.hoisted, d.events ++ e.events, d.degraded + e.degraded⟩ := rfl

@[simp] theorem empty_append (d : Draft) : empty ++ d = d := by
  simp [append_eq, empty]

@[simp] theorem append_empty (d : Draft) : d ++ empty = d := by
  simp [append_eq, empty]

theorem append_assoc (d e f : Draft) : d ++ e ++ f = d ++ (e ++ f) := by
  simp [append_eq, List.append_assoc, Nat.add_assoc]

end Draft

/-- A part of a compilation, given the first free slot. -/
def Assembly (α : Type) : Type := Slot → Except CompileError α × Draft

namespace Assembly

variable {α β : Type}

/-- One computation after the other. -/
def andThen (x : Assembly α) (f : α → Assembly β) : Assembly β := fun slot =>
  match x slot with
  | (.error e, d) => (.error e, d)
  | (.ok a, d) =>
    let (r, e) := f a (slot + d.hoisted.length)
    (r, d ++ e)

instance : Monad Assembly where
  pure a := fun _ => (.ok a, .empty)
  bind := andThen

theorem pure_apply (a : α) (slot : Slot) : (pure a : Assembly α) slot = (.ok a, .empty) := rfl

theorem bind_apply_ok {x : Assembly α} {f : α → Assembly β} {slot : Slot} {a : α} {d : Draft}
    (h : x slot = (.ok a, d)) :
    (x >>= f) slot =
      ((f a (slot + d.hoisted.length)).1, d ++ (f a (slot + d.hoisted.length)).2) := by
  show andThen x f slot = _
  simp only [andThen, h]

theorem bind_apply_error {x : Assembly α} {f : α → Assembly β} {slot : Slot} {e : CompileError}
    {d : Draft} (h : x slot = (.error e, d)) : (x >>= f) slot = (.error e, d) := by
  show andThen x f slot = _
  simp only [andThen, h]

/-- Stops with an error. -/
def fail (e : CompileError) : Assembly α := fun _ => (.error e, .empty)

/-- Reports an event. -/
def emit (event : Event) : Assembly Unit := fun _ => (.ok (), ⟨[], [event], 0⟩)

/-- The first free slot, which is the number of literals hoisted so far. -/
def nextSlot : Assembly Slot := fun slot => (.ok slot, .empty)

/-- Puts a literal into the first free slot. -/
def hoist (literal : Hoisted) : Assembly Slot := fun slot =>
  (.ok slot, ⟨[literal], [.hoisted slot], 0⟩)

/-- Gives up a node: an error if compilation is strict, otherwise a predicate
that never matches. -/
def degrade (strict : Bool) (e : CompileError) : Assembly Predicate := fun _ =>
  if strict then (.error e, ⟨[], [], 1⟩) else (.ok .never, ⟨[], [.neverMatches e], 1⟩)

/-- Also tells whether a computation gave up any node. -/
def watch (x : Assembly α) : Assembly (α × Bool) := fun slot =>
  match x slot with
  | (.error e, d) => (.error e, d)
  | (.ok a, d) => (.ok (a, 0 < d.degraded), d)

/-- Lets a computation that stops with an error give up the node instead. -/
def rescue (strict : Bool) (x : Assembly Predicate) : Assembly Predicate := fun slot =>
  match x slot with
  | (.error e, d) =>
    let (r, f) := degrade strict e (slot + d.hoisted.length)
    (r, d ++ f)
  | (.ok p, d) => (.ok p, d)

theorem rescue_apply_strict_error {x : Assembly Predicate} {slot : Slot} {e : CompileError}
    {d : Draft} (h : x slot = (.error e, d)) : ∃ d', rescue true x slot = (.error e, d') := by
  rw [rescue, h]
  exact ⟨_, rfl⟩

end Assembly

end RecordFilter
