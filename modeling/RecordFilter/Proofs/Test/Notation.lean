import RecordFilter.Proofs.Json.Reading
import RecordFilter.Proofs.Path.Spelling
import RecordFilter.Proofs.Predicate.Canonical

/-!
# Tests are told apart by their texts

A test starts with its path and a link behind it, or with a word and a bracket in which its
path stands. Words and links are read one way only (`Opening.word_append_inj`,
`Link.word_append_inj`), paths and literals end where a listing goes on (`Stops`), and so a text
has one test in front (`Test.describe_append_inj`).

A range is shown as two comparisons, the first of which would be a test as well. What tells
the two apart is what follows: behind the one comparison the text goes on with another
conjunct (`Joins`).
-/

namespace RecordFilter

open Json (Closes)

/-! ### Words -/

inductive Opening where
  | never
  | group
  | not
  | quantify (q : Quantifier)
  | truthy
  | falsy
  | text (op : TextTest)
  | type (t : TypeTest)
  | path
  deriving DecidableEq

namespace Opening

def word : Opening → String
  | never => "never"
  | group => "("
  | not => "!("
  | quantify q => q.name ++ "("
  | truthy => "truthy("
  | falsy => "falsy("
  | text op => op.name ++ "("
  | type t => t.name ++ "("
  | path => "$"

def all : List Opening :=
  [never, group, not, quantify .any, quantify .all, truthy, falsy, text .includes,
    text .startsWith, text .endsWith, type .isInteger, type .isFinite, type .isNaN, type .isArray,
    path]

theorem mem_all (o : Opening) : o ∈ all := by
  cases o with
  | quantify q => cases q <;> decide
  | text op => cases op <;> decide
  | type t => cases t <;> decide
  | _ => decide

/-- No two predicates that start differently are shown with the same first word. -/
theorem word_append_inj {o o' : Opening} {s t : List Char}
    (h : o.word.toList ++ s = o'.word.toList ++ t) : o = o' ∧ s = t := by
  have hfree : ∀ o ∈ all, ∀ o' ∈ all, o.word.toList <+: o'.word.toList → o = o' := by decide
  exact append_inj_of_prefixFree (fun o o' => hfree o (mem_all o) o' (mem_all o')) h

end Opening

/-- What stands behind the path of a test that starts with it. -/
inductive Link where
  | compare (op : Comparison)
  | member
  | pattern
  deriving DecidableEq

namespace Link

def word : Link → String
  | compare op => " " ++ op.symbol ++ " "
  | member => " in #"
  | pattern => " =~ #"

def all : List Link :=
  [compare .eq, compare .ne, compare .strictEq, compare .strictNe, compare .ge, compare .le,
    compare .lt, compare .gt, member, pattern]

theorem mem_all (l : Link) : l ∈ all := by
  cases l with
  | compare op => cases op <;> decide
  | _ => decide

theorem not_allowed (l : Link) {s : List Char} :
    ∀ c ∈ (l.word.toList ++ s).head?, Path.isAllowed c = false := by
  have hhead : ∀ l ∈ all, l.word.toList.head? = some ' ' := by decide
  rw [List.head?_append, hhead l (mem_all l)]
  rintro _ ⟨⟩
  decide

theorem word_append_inj {l l' : Link} {s t : List Char}
    (h : l.word.toList ++ s = l'.word.toList ++ t) : l = l' ∧ s = t := by
  have hfree : ∀ l ∈ all, ∀ l' ∈ all, l.word.toList <+: l'.word.toList → l = l' := by decide
  exact append_inj_of_prefixFree (fun l l' => hfree l (mem_all l) l' (mem_all l')) h

end Link

/-! ### What follows a predicate -/

/-- What can follow a predicate in a listing: nothing, a closing bracket, or a space. -/
def Stops (s : List Char) : Prop := ∀ c ∈ s.head?, c = ')' ∨ c = ' '

namespace Stops

theorem nil : Stops [] := by
  rintro c ⟨⟩

theorem closing (s : List Char) : Stops (')' :: s) := by
  rintro c ⟨⟩
  exact .inl rfl

theorem space (s : List Char) : Stops (' ' :: s) := by
  rintro c ⟨⟩
  exact .inr rfl

variable {s : List Char}

theorem closes (h : Stops s) : Closes s := by
  intro c hc
  rcases h c hc with rfl | rfl <;> decide

theorem isDigit (h : Stops s) : ∀ c ∈ s.head?, c.isDigit = false := fun c hc => (h.closes c hc).1

end Stops

def Joins (s : List Char) : Prop := " && ".toList <+: s

theorem stops_conjunct (s : List Char) : Stops (" && ".toList ++ s) := Stops.space _

namespace Path.Legible

variable {path path' : Path} {word rest rest' : String} {s s' : List Char}

theorem argument_append_inj (h : path.Legible) (h' : path'.Legible)
    (heq : (word ++ path.text ++ ")").toList ++ s = (word ++ path'.text ++ ")").toList ++ s') :
    path = path' ∧ s = s' := by
  have hclosing : ∀ s, ∀ c ∈ (')' :: s).head?, isAllowed c = false := by
    rintro s _ ⟨⟩
    decide
  simp only [String.toList_append, List.append_assoc] at heq
  obtain ⟨hpaths, heq⟩ :=
    h.text_append_inj h' (hclosing s) (hclosing s') (List.append_cancel_left heq)
  exact ⟨hpaths, (List.cons.inj heq).2⟩

theorem arguments_append_inj (h : path.Legible) (h' : path'.Legible)
    (heq : (word ++ path.text ++ ", " ++ rest ++ ")").toList ++ s =
      (word ++ path'.text ++ ", " ++ rest' ++ ")").toList ++ s') :
    path = path' ∧ rest.toList ++ ')' :: s = rest'.toList ++ ')' :: s' := by
  have hcomma : ∀ s, ∀ c ∈ (',' :: s).head?, isAllowed c = false := by
    rintro s _ ⟨⟩
    decide
  simp only [String.toList_append, List.append_assoc] at heq
  obtain ⟨hpaths, heq⟩ :=
    h.text_append_inj h' (hcomma _) (hcomma _) (List.append_cancel_left heq)
  exact ⟨hpaths, (List.cons.inj (List.cons.inj heq).2).2⟩

end Path.Legible

/-! ### Tests -/

/-- A literal whose text tells it: without floats, and with its fields in order. -/
structure Value.Told (v : Value) : Prop where
  isFloatFree : v.isFloatFree = true
  normalize : v.normalize = v

theorem Value.Told.toJson_append_inj {v w : Value} (hv : v.Told) (hw : w.Told) {s t : List Char}
    (hs : Closes s) (ht : Closes t) (h : v.toJson.toList ++ s = w.toJson.toList ++ t) :
    v = w ∧ s = t := by
  obtain ⟨heq, hst⟩ := Json.toJson_append_inj hv.isFloatFree hw.isFloatFree hs ht h
  rw [hv.normalize, hw.normalize] at heq
  exact ⟨heq, hst⟩

namespace Test

def Told : Test Slot Slot → Prop
  | compare _ literal => literal.Told
  | range _ min max => min.Told ∧ max.Told
  | text _ needle => needle.Told
  | _ => True

def opening : Test Slot Slot → Opening
  | truthy => .truthy
  | falsy => .falsy
  | text op _ => .text op
  | type t => .type t
  | _ => .path

def link : Test Slot Slot → Link
  | compare op _ => .compare op
  | pattern _ => .pattern
  | _ => .member

def ending : Test Slot Slot → List Char
  | compare _ literal => literal.toJson.toList
  | member slot => Nat.toDigits 10 slot
  | pattern slot => Nat.toDigits 10 slot
  | _ => []

theorem toList_describe_of_path (path : Path) {t : Test Slot Slot} (h : t.opening = .path)
    (hrange : t.isRange = false) :
    (t.describe path.text).toList = path.text.toList ++ (t.link.word.toList ++ t.ending) := by
  cases t with
  | truthy | falsy | text _ _ | type _ => cases h
  | range _ _ _ => cases hrange
  | compare _ _ | member _ | pattern _ =>
      simp only [describe, link, ending, Link.word, toList_toString, String.toList_append,
        List.append_assoc]

theorem toList_describe_range (path : Path) (interval : Interval) (min max : Value) :
    ((range interval min max : Test Slot Slot).describe path.text).toList =
      ((compare interval.lower min : Test Slot Slot).describe path.text).toList ++
        (" && ".toList ++
          ((compare interval.upper max : Test Slot Slot).describe path.text).toList) := by
  simp only [describe, String.toList_append, List.append_assoc]

theorem exists_describe_eq (path : Path) (t : Test Slot Slot) :
    ∃ rest, (t.describe path.text).toList = t.opening.word.toList ++ rest := by
  obtain ⟨cs, hcs⟩ := path.exists_cons_text
  cases t with
  | truthy | falsy | text _ _ | type _ =>
      simp only [describe, opening, Opening.word, String.toList_append, List.append_assoc]
      exact ⟨_, rfl⟩
  | compare _ _ | range _ _ _ | member _ | pattern _ =>
      simp only [describe, opening, Opening.word, String.toList_append, List.append_assoc, hcs]
      exact ⟨_, rfl⟩

variable {path path' : Path} {t t' : Test Slot Slot} {s s' : List Char}

theorem opening_eq_of_describe
    (h : (t.describe path.text).toList ++ s = (t'.describe path'.text).toList ++ s') :
    t.opening = t'.opening := by
  obtain ⟨rest, hrest⟩ := exists_describe_eq path t
  obtain ⟨rest', hrest'⟩ := exists_describe_eq path' t'
  rw [hrest, hrest', List.append_assoc, List.append_assoc] at h
  exact (Opening.word_append_inj h).1

theorem ending_append_inj (ht : t.Told) (ht' : t'.Told) (hopening : t.opening = .path)
    (hopening' : t'.opening = .path) (hrange : t.isRange = false) (hrange' : t'.isRange = false)
    (hlink : t.link = t'.link) (hs : Stops s) (hs' : Stops s')
    (h : t.ending ++ s = t'.ending ++ s') : t = t' ∧ s = s' := by
  cases t with
  | truthy | falsy | text _ _ | type _ => cases hopening
  | range _ _ _ => cases hrange
  | compare op literal =>
      cases t' with
      | compare op' literal' =>
          cases hlink
          obtain ⟨rfl, rfl⟩ := ht.toJson_append_inj ht' hs.closes hs'.closes h
          exact ⟨rfl, rfl⟩
      | range _ _ _ => cases hrange'
      | _ => cases hlink
  | member slot =>
      cases t' with
      | member slot' =>
          obtain ⟨rfl, rfl⟩ := toDigits_append_inj hs.isDigit hs'.isDigit h
          exact ⟨rfl, rfl⟩
      | compare _ _ | pattern _ => cases hlink
      | range _ _ _ => cases hrange'
      | truthy | falsy | text _ _ | type _ => cases hopening'
  | pattern slot =>
      cases t' with
      | pattern slot' =>
          obtain ⟨rfl, rfl⟩ := toDigits_append_inj hs.isDigit hs'.isDigit h
          exact ⟨rfl, rfl⟩
      | range _ _ _ => cases hrange'
      | _ => cases hlink

/-- A text has one test in front that is no range. -/
theorem describe_append_inj_of_not_range (hpath : path.Legible) (hpath' : path'.Legible)
    (ht : t.Told) (ht' : t'.Told) (hrange : t.isRange = false) (hrange' : t'.isRange = false)
    (hs : Stops s) (hs' : Stops s')
    (h : (t.describe path.text).toList ++ s = (t'.describe path'.text).toList ++ s') :
    path = path' ∧ t = t' ∧ s = s' := by
  have hopening := opening_eq_of_describe h
  by_cases hop : t.opening = .path
  · rw [toList_describe_of_path path hop hrange,
      toList_describe_of_path path' (hopening ▸ hop) hrange'] at h
    rw [List.append_assoc, List.append_assoc, List.append_assoc, List.append_assoc] at h
    have hword : ∀ c ∈ (t.link.word.toList ++ (t.ending ++ s)).head?, Path.isAllowed c = false :=
      t.link.not_allowed
    have hword' : ∀ c ∈ (t'.link.word.toList ++ (t'.ending ++ s')).head?,
        Path.isAllowed c = false := t'.link.not_allowed
    obtain ⟨hpaths, h⟩ := hpath.text_append_inj hpath' hword hword' h
    obtain ⟨hlink, h⟩ := Link.word_append_inj h
    exact ⟨hpaths, ending_append_inj ht ht' hop (hopening ▸ hop) hrange hrange' hlink hs hs' h⟩
  · cases t with
    | compare _ _ | range _ _ _ | member _ | pattern _ => exact absurd rfl hop
    | truthy =>
        cases t' with
        | truthy =>
            obtain ⟨hpaths, h⟩ := hpath.argument_append_inj hpath' h
            exact ⟨hpaths, rfl, h⟩
        | _ => cases hopening
    | falsy =>
        cases t' with
        | falsy =>
            obtain ⟨hpaths, h⟩ := hpath.argument_append_inj hpath' h
            exact ⟨hpaths, rfl, h⟩
        | _ => cases hopening
    | type t =>
        cases t' with
        | type t' =>
            cases hopening
            obtain ⟨hpaths, h⟩ := hpath.argument_append_inj hpath' h
            exact ⟨hpaths, rfl, h⟩
        | _ => cases hopening
    | text op needle =>
        cases t' with
        | text op' needle' =>
            cases hopening
            obtain ⟨hpaths, h⟩ := hpath.arguments_append_inj hpath' h
            obtain ⟨rfl, hrest⟩ := ht.toJson_append_inj ht' (Stops.closing s).closes
              (Stops.closing s').closes h
            exact ⟨hpaths, rfl, (List.cons.inj hrest).2⟩
        | _ => cases hopening

theorem exists_of_isRange (h : t.isRange = true) :
    ∃ interval min max, t = range interval min max := by
  cases t with
  | range interval min max => exact ⟨interval, min, max, rfl⟩
  | _ => cases h

/-- A range is told by its two comparisons. -/
theorem eq_of_lower_of_upper {i j : Interval} :
    i.lower = j.lower → i.upper = j.upper → i = j := by
  cases i <;> cases j <;> decide

/-- Where a text has a range in front, it has no other test there, unless it goes on with
another conjunct. -/
theorem joins_of_describe_range (hpath : path.Legible) (hpath' : path'.Legible) (ht : t.Told)
    (ht' : t'.Told) (hrange : t.isRange = true) (hrange' : t'.isRange = false) (hs' : Stops s')
    (h : (t.describe path.text).toList ++ s = (t'.describe path'.text).toList ++ s') :
    Joins s' := by
  obtain ⟨interval, min, max, rfl⟩ := exists_of_isRange hrange
  rw [toList_describe_range, List.append_assoc] at h
  have hlower : Told (compare interval.lower min) := ht.1
  obtain ⟨-, -, hrest⟩ := describe_append_inj_of_not_range hpath hpath' hlower ht' rfl hrange'
    (stops_conjunct _) hs' h
  rw [← hrest]
  exact List.prefix_append _ _

/-- A text has one test in front, if it does not go on with a conjunct behind a range. -/
theorem describe_append_inj (hpath : path.Legible) (hpath' : path'.Legible) (ht : t.Told)
    (ht' : t'.Told) (hs : Stops s) (hs' : Stops s')
    (hjoins : t.isRange = false ∧ t'.isRange = false ∨ ¬ Joins s ∧ ¬ Joins s')
    (h : (t.describe path.text).toList ++ s = (t'.describe path'.text).toList ++ s') :
    path = path' ∧ t = t' ∧ s = s' := by
  cases hrange : t.isRange with
  | false =>
      cases hrange' : t'.isRange with
      | false => exact describe_append_inj_of_not_range hpath hpath' ht ht' hrange hrange' hs hs' h
      | true =>
          have hjoin := joins_of_describe_range hpath' hpath ht' ht hrange' hrange hs h.symm
          rcases hjoins with ⟨-, hfalse⟩ | ⟨hnot, -⟩
          · rw [hrange'] at hfalse
            cases hfalse
          · exact absurd hjoin hnot
  | true =>
      cases hrange' : t'.isRange with
      | false =>
          have hjoin := joins_of_describe_range hpath hpath' ht ht' hrange hrange' hs' h
          rcases hjoins with ⟨hfalse, -⟩ | ⟨-, hnot⟩
          · rw [hrange] at hfalse
            cases hfalse
          · exact absurd hjoin hnot
      | true =>
          obtain ⟨i, min, max, rfl⟩ := exists_of_isRange hrange
          obtain ⟨j, min', max', rfl⟩ := exists_of_isRange hrange'
          simp only [toList_describe_range, List.append_assoc] at h
          have hlower : ∀ {k : Interval} {v : Value}, v.Told → Told (compare k.lower v) := id
          have hupper : ∀ {k : Interval} {v : Value}, v.Told → Told (compare k.upper v) := id
          obtain ⟨hpaths, hmin, hrest⟩ := describe_append_inj_of_not_range hpath hpath'
            (hlower ht.1) (hlower ht'.1) rfl rfl (stops_conjunct _) (stops_conjunct _) h
          obtain ⟨-, hmax, hst⟩ := describe_append_inj_of_not_range hpath hpath'
            (hupper ht.2) (hupper ht'.2) rfl rfl hs hs' (List.append_cancel_left hrest)
          cases eq_of_lower_of_upper (compare.inj hmin).1 (compare.inj hmax).1
          cases (compare.inj hmin).2
          cases (compare.inj hmax).2
          exact ⟨hpaths, rfl, hst⟩

end Test

end RecordFilter
