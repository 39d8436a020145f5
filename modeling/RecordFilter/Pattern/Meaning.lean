import RecordFilter.Pattern.NormalForm

/-!
# The meaning of a pattern

Turns a syntax tree into a regular expression under the options in force. A
directive changes the options for the rest of the group that it stands in, over
branches too. With Unicode switched off classes are ASCII classes, and whatever
would match a part of a character is refused.
-/

namespace RecordFilter.Pattern

/-- The options in force at a place of a pattern. -/
structure Options where
  ignoreCase : Bool
  multiLine : Bool
  dotAll : Bool
  swapGreed : Bool
  unicode : Bool
  carriageReturn : Bool

namespace Options

def set (o : Options) : Flag × Bool → Options
  | (.ignoreCase, on) => { o with ignoreCase := on }
  | (.multiLine, on) => { o with multiLine := on }
  | (.dotAll, on) => { o with dotAll := on }
  | (.swapGreed, on) => { o with swapGreed := on }
  | (.unicode, on) => { o with unicode := on }
  | (.carriageReturn, on) => { o with carriageReturn := on }
  | (.verbose, _) => o

/-- The options after a directive. -/
def apply (o : Options) (flags : Flags) : Options := flags.foldl set o

/-- The set with everything that folds together with a member. -/
def fold (o : Options) (s : CharSet) : CharSet :=
  if !o.ignoreCase then s
  else if o.unicode then Unicode.closeUnderFolding s
  else Unicode.closeUnderAsciiCase s

/-- The codes that are not in a class. -/
def negate (o : Options) (s : CharSet) : CharSet :=
  if o.unicode then s.negation else s.complement 255

/-- A class as it stands in a pattern: folded, then negated. Bytes that are no
character are refused. -/
def classOf (o : Options) (negated : Bool) (s : CharSet) : Except Fault CharSet :=
  let s := o.fold s
  let s := if negated then o.negate s else s
  if o.unicode || s.isAscii then .ok s else .error .notText

/-- A single character outside brackets. -/
def literal (o : Options) (l : Literal) : Except Fault CharSet :=
  if !o.unicode && l.byte && 127 < l.char.toNat then .error .notText
  else if !o.unicode && 127 < l.char.toNat then .ok (.single l.char.toNat)
  else .ok (o.fold (.single l.char.toNat))

/-- The code of a character inside brackets. -/
def literalCode (o : Options) (l : Literal) : Except Fault Nat :=
  if o.unicode || l.char.toNat ≤ 127 then .ok l.char.toNat
  else if l.byte then .error .notText
  else .error .needsUnicode

def property (o : Options) (query : PropertyQuery) (negated : Bool) : Except Fault CharSet :=
  if !o.unicode then .error .needsUnicode
  else match query.set? with
    | none => .error .propertyUnknown
    | some s => o.classOf negated s

/-- A shorthand class; these are closed under folding. -/
def shorthand (o : Options) (kind : Shorthand) (negated : Bool) : Except Fault CharSet :=
  let s := kind.set o.unicode
  let s := if negated then o.negate s else s
  if o.unicode || s.isAscii then .ok s else .error .notText

mutual

/-- The set of a class item. -/
def classItem (o : Options) : ClassItem → Except Fault CharSet
  | .empty => .ok .empty
  | .literal l => do return .single (← o.literalCode l)
  | .range low high => do return .range (← o.literalCode low) (← o.literalCode high)
  | .ascii kind negated => o.classOf negated kind.set
  | .property query negated => o.property query negated
  | .shorthand kind negated => o.shorthand kind negated
  | .bracketed negated item => do o.classOf negated (← o.classItem item)
  | .union items => o.classItems items
  | .operation op left right => do
    let s := o.fold (← o.classItem left)
    let t := o.fold (← o.classItem right)
    return match op with
      | .intersection => s.inter t
      | .difference => s.diff t
      | .symmetricDifference => s.symmDiff t

/-- The union of some class items. -/
def classItems (o : Options) : List ClassItem → Except Fault CharSet
  | [] => .ok .empty
  | item :: items => do return (← o.classItem item).union (← o.classItems items)

end

/-- The characters that a dot stands for. -/
def dot (o : Options) : Except Fault CharSet :=
  if !o.unicode then .error .notText
  else if o.dotAll then .ok CharSet.empty.compl
  else if o.carriageReturn then .ok (CharSet.compl ⟨[(10, 10), (13, 13)]⟩)
  else .ok (CharSet.compl ⟨[(10, 10)]⟩)

def look (o : Options) : Assertion → Look
  | .startLine =>
    if !o.multiLine then .start else if o.carriageReturn then .startLineReturn else .startLine
  | .endLine =>
    if !o.multiLine then .finish else if o.carriageReturn then .endLineReturn else .endLine
  | .startText => .start
  | .endText => .finish
  | .boundary => .boundary o.unicode
  | .notBoundary => .notBoundary o.unicode
  | .wordStart => .wordStart o.unicode
  | .wordEnd => .wordEnd o.unicode
  | .wordStartHalf => .wordStartHalf o.unicode
  | .wordEndHalf => .wordEndHalf o.unicode

end Options

mutual

/-- The expression of a syntax tree, and the options after it. -/
def Syntax.meaning : Syntax → Options → Except Fault (Regex × Options)
  | .empty, o => .ok (.empty, o)
  | .flags changes, o => .ok (.empty, o.apply changes)
  | .literal l, o => do return (.ofChars o.unicode (← o.literal l), o)
  | .dot, o => do return (.ofChars o.unicode (← o.dot), o)
  | .assertion a, o => .ok (.look (o.look a), o)
  | .property query negated, o => do return (.ofChars o.unicode (← o.property query negated), o)
  | .shorthand kind negated, o => do return (.ofChars o.unicode (← o.shorthand kind negated), o)
  | .bracketed negated item, o => do
    return (.ofChars o.unicode (← o.classOf negated (← o.classItem item)), o)
  | .repetition greedy body min max, o => do
    let (r, o') ← body.meaning o
    return (.repeated (greedy != o.swapGreed) r min max, o')
  | .group .capture body, o => do
    let (r, _) ← body.meaning o
    return (.group r, o)
  | .group (.scope changes) body, o => do
    let (r, _) ← body.meaning (o.apply changes)
    return (r, o)
  | .alternation branches, o => do
    let (rs, o) ← Syntax.meanings branches o
    return (.alternate rs, o)
  | .concatenation parts, o => do
    let (rs, o) ← Syntax.meanings parts o
    return (.concat rs, o)

/-- The expressions of some trees in a row, each under the options that the one
before it leaves. -/
def Syntax.meanings : List Syntax → Options → Except Fault (List Regex × Options)
  | [], o => .ok ([], o)
  | s :: rest, o => do
    let (r, o) ← s.meaning o
    let (rs, o) ← Syntax.meanings rest o
    return (r :: rs, o)

end

end RecordFilter.Pattern
