import RecordFilter.Pattern.Syntax
import RecordFilter.Text.Blank
import RecordFilter.Unicode.Letter

/-!
# Reading patterns

A pattern is read from left to right into its syntax tree. The reader carries
the text that is left, whether the verbose option is on (blanks and comments
are then skipped between tokens), and the names given to groups so far.

Every function that calls itself takes a fuel; each round of a loop and each
nested group takes at least one character, so the fuel that `read` starts with
outlasts every text.
-/

namespace RecordFilter.Pattern

/-- What is left to read, and what was settled by the text before it. -/
structure Cursor where
  rest : List Char
  verbose : Bool
  names : List String

abbrev Reader := StateT Cursor (Except Fault)

namespace Reader

def peek : Reader (Option Char) := do return (← get).rest.head?

/-- Steps over one character. -/
def skip : Reader Unit := modify fun s => { s with rest := s.rest.drop 1 }

/-- Takes a text off the front if it stands there. -/
def take? (text : String) : Reader Bool := do
  let s ← get
  if text.toList.isPrefixOf s.rest then
    set { s with rest := s.rest.drop text.length }
    return true
  else return false

/-- The text after a comment, which ends with its line. -/
def dropComment (cs : List Char) : List Char := (cs.dropWhile (· != '\n')).drop 1

/-- The text after blanks and comments. -/
def dropBlanks : Nat → List Char → List Char
  | 0, cs => cs
  | _, [] => []
  | fuel + 1, c :: cs =>
    if Text.isBlank c then dropBlanks fuel cs
    else if c == '#' then dropBlanks fuel (dropComment cs)
    else c :: cs

/-- Steps over blanks and comments in verbose mode. -/
def skipBlanks : Reader Unit :=
  modify fun s => if s.verbose then { s with rest := dropBlanks (s.rest.length + 1) s.rest } else s

/-- Steps over one character and what may be skipped after it, and looks at the
next one. -/
def advance : Reader (Option Char) := do
  skip
  skipBlanks
  peek

/-- The character after the next one, as the range test sees it: in verbose
mode blanks are passed over, and so is one number sign. -/
def peekAfter : Reader (Option Char) := do
  let s ← get
  let cs := s.rest.drop 1
  if !s.verbose then return cs.head?
  let past := cs.dropWhile Text.isBlank
  let past := match past with
    | '#' :: more => more.dropWhile Text.isBlank
    | _ => past
  return (past.head?).or cs.head?

def fail {α : Type} (f : Fault) : Reader α := throw f

/-! ## Counted repetition -/

/-- Steps over blanks whether or not the mode is verbose. -/
def skipAllBlanks : Reader Unit := modify fun s => { s with rest := s.rest.dropWhile Text.isBlank }

/-- Digits, each followed by what may be skipped. -/
def digits : Nat → Reader (List Char)
  | 0 => return []
  | fuel + 1 => do
    match ← peek with
    | some c =>
      if c.isDigit then
        let _ ← advance
        return c :: (← digits fuel)
      else return []
    | none => return []

/-- A count of at most 32 bits with blanks around it; `none` if no digit is
written. -/
def count : Reader (Option Nat) := do
  skipAllBlanks
  let ds ← digits (← get).rest.length
  skipAllBlanks
  skipBlanks
  if ds.isEmpty then return none
  let n := Nat.ofDigitChars 10 ds 0
  if n < Nat.pow 2 32 then return some n else fail .repetitionTooLarge

/-- A count that has to be written. -/
def required (n : Option Nat) : Reader Nat :=
  match n with
  | some n => return n
  | none => fail .repetitionEmpty

/-- Whether a repetition is greedy; a question mark makes it lazy. -/
def greed : Reader Bool := do return !(← take? "?")

/-- The bounds of a counted repetition after its opening brace, and whether it
is greedy. -/
def bounds : Reader (Bool × Nat × Option Nat) := do
  if (← advance).isNone then fail .repetitionUnclosed
  let low ← count
  let range ← match ← peek with
    | none => fail .repetitionUnclosed
    | some ',' =>
      match ← advance with
      | none => fail .repetitionUnclosed
      | some '\x7d' => pure (← required low, none)
      | some _ =>
        let low ← required low
        let high ← required (← count)
        pure (low, some high)
    | some _ =>
      let n ← required low
      pure (n, some n)
  if (← peek) != some '\x7d' then fail .repetitionUnclosed
  let _ ← advance
  let greedy ← greed
  match range with
  | (low, some high) => if high < low then fail .repetitionReversed
  | _ => pure ()
  return (greedy, range)

/-! ## Escapes -/

/-- What an escape or a plain character stands for, inside brackets or out. -/
inductive Primitive where
  | literal (l : Literal)
  | assertion (a : Assertion)
  | dot
  | property (query : PropertyQuery) (negated : Bool)
  | shorthand (kind : Shorthand) (negated : Bool)

def isHex (c : Char) : Bool :=
  c.isDigit || ('a' ≤ c && c ≤ 'f') || ('A' ≤ c && c ≤ 'F')

def hexDigitValue (c : Char) : Nat :=
  if c.isDigit then c.toNat - '0'.toNat
  else if 'a' ≤ c then c.toNat - 'a'.toNat + 10
  else c.toNat - 'A'.toNat + 10

/-- The character of some hexadecimal digits. -/
def hexChar (ds : List Char) : Reader Char := do
  let n := ds.foldl (fun n d => n * 16 + hexDigitValue d) 0
  if n.isValidChar then return Char.ofNat n else fail .hexInvalid

/-- Exactly `n` hexadecimal digits, the first of which is next. -/
def hexDigits : Nat → Reader (List Char)
  | 0 => return []
  | n + 1 => do
    match ← peek with
    | none => fail .escapeUnfinished
    | some c =>
      if isHex c then
        let _ ← advance
        return c :: (← hexDigits n)
      else fail .hexDigit

/-- Hexadecimal digits up to the closing brace. -/
def bracedHex : Nat → Reader (List Char)
  | 0 => fail .escapeUnfinished
  | fuel + 1 => do
    match ← peek with
    | none => fail .escapeUnfinished
    | some '\x7d' =>
      let _ ← advance
      return []
    | some c =>
      if isHex c then
        let _ ← advance
        return c :: (← bracedHex fuel)
      else fail .hexDigit

/-- A character by its code point; `letter` tells how many digits it has. -/
def hexEscape (letter : Char) : Reader Literal := do
  match ← advance with
  | none => fail .escapeUnfinished
  | some '\x7b' =>
    let _ ← advance
    let ds ← bracedHex ((← get).rest.length + 1)
    if ds.isEmpty then fail .hexEmpty
    return ⟨← hexChar ds, false⟩
  | some _ =>
    let ds ← hexDigits (if letter == 'x' then 2 else if letter == 'u' then 4 else 8)
    return ⟨← hexChar ds, letter == 'x'⟩

/-- The characters up to the closing brace. -/
def bracedName : Nat → Reader (List Char)
  | 0 => fail .escapeUnfinished
  | fuel + 1 => do
    match ← peek with
    | none => fail .escapeUnfinished
    | some '\x7d' =>
      skip
      return []
    | some c =>
      let _ ← advance
      return c :: (← bracedName fuel)

/-- Splits a text at the first occurrence of a mark. -/
def splitAt? (mark : List Char) : List Char → Option (List Char × List Char)
  | [] => none
  | c :: cs =>
    if mark.isPrefixOf (c :: cs) then some ([], (c :: cs).drop mark.length)
    else (splitAt? mark cs).map fun (l, r) => (c :: l, r)

/-- A property in braces: a name, or a name and a value. -/
def propertyOf (name : List Char) : PropertyQuery × Bool :=
  let valued (l r : List Char) : PropertyQuery := .valued (String.ofList l) (String.ofList r)
  match splitAt? "!=".toList name, splitAt? [':'] name, splitAt? ['='] name with
  | some (l, r), _, _ => (valued l r, true)
  | none, some (l, r), _ => (valued l r, false)
  | none, none, some (l, r) => (valued l r, false)
  | none, none, none => (.named (String.ofList name), false)

def propertyEscape (negated : Bool) : Reader Primitive := do
  match ← advance with
  | none => fail .escapeUnfinished
  | some '\x7b' =>
    let _ ← advance
    let (query, inverted) := propertyOf (← bracedName ((← get).rest.length + 1))
    return .property query (negated != inverted)
  | some c =>
    if c == '\\' then fail .propertyInvalid
    let _ ← advance
    return .property (.named (String.singleton c)) negated

/-- The characters with a meaning in patterns. -/
def isMeta (c : Char) : Bool := "\\.+*?()|[]\x7b\x7d^$#&-~".contains c

/-- The characters that a backslash leaves as they are. -/
def isEscapable (c : Char) : Bool :=
  isMeta c || (c.toNat < 128 && !c.isAlphanum && c != '<' && c != '>')

def isBoundaryLetter (c : Char) : Bool := c.isAlpha || c == '-'

/-- The letters of a boundary's name, each followed by what may be skipped. -/
def boundaryName : Nat → Reader (List Char)
  | 0 => return []
  | fuel + 1 => do
    match ← peek with
    | some c =>
      if isBoundaryLetter c then
        let _ ← advance
        return c :: (← boundaryName fuel)
      else return []
    | none => return []

/-- A word boundary, which a name in braces may make more special. Braces with
anything but a name are left for a repetition. -/
def boundaryEscape : Reader Assertion := do
  if (← peek) != some '\x7b' then return .boundary
  let start ← get
  match ← advance with
  | none => fail .boundaryUnfinished
  | some c =>
    if !isBoundaryLetter c then
      set start
      return .boundary
    let name ← boundaryName (← get).rest.length
    if (← peek) != some '\x7d' then fail .boundaryUnclosed
    skip
    match String.ofList name with
    | "start" => return .wordStart
    | "end" => return .wordEnd
    | "start-half" => return .wordStartHalf
    | "end-half" => return .wordEndHalf
    | _ => fail .boundaryUnknown

/-- An escape, the backslash being next. -/
def escape : Reader Primitive := do
  skip
  match ← peek with
  | none => fail .escapeUnfinished
  | some c =>
    let literal (c : Char) : Reader Primitive := return .literal ⟨c, false⟩
    if c.isDigit then fail .backReference
    else if c == 'x' || c == 'u' || c == 'U' then return .literal (← hexEscape c)
    else if c == 'p' || c == 'P' then propertyEscape (c == 'P')
    else
      skip
      if isEscapable c then literal c
      else match c with
        | 'd' => return .shorthand .digit false
        | 'D' => return .shorthand .digit true
        | 's' => return .shorthand .space false
        | 'S' => return .shorthand .space true
        | 'w' => return .shorthand .word false
        | 'W' => return .shorthand .word true
        | 'a' => literal '\x07'
        | 'f' => literal '\x0c'
        | 't' => literal '\t'
        | 'n' => literal '\n'
        | 'r' => literal '\r'
        | 'v' => literal '\x0b'
        | 'A' => return .assertion .startText
        | 'z' => return .assertion .endText
        | 'b' => return .assertion (← boundaryEscape)
        | 'B' => return .assertion .notBoundary
        | '<' => return .assertion .wordStart
        | '>' => return .assertion .wordEnd
        | _ => fail .escapeUnknown

/-! ## Classes in brackets -/

def asciiClass? : String → Option AsciiClass
  | "alnum" => some .alnum
  | "alpha" => some .alpha
  | "ascii" => some .ascii
  | "blank" => some .blank
  | "cntrl" => some .cntrl
  | "digit" => some .digit
  | "graph" => some .graph
  | "lower" => some .lower
  | "print" => some .print
  | "punct" => some .punct
  | "space" => some .space
  | "upper" => some .upper
  | "word" => some .word
  | "xdigit" => some .xdigit
  | _ => none

/-- A named class at the front of a text, and what follows it. -/
def namedClass? : List Char → Option (ClassItem × List Char)
  | '[' :: ':' :: cs =>
    let (negated, cs) := match cs with
      | '^' :: more => (true, more)
      | _ => (false, cs)
    match cs.dropWhile (· != ':') with
    | ':' :: ']' :: rest =>
      (asciiClass? (String.ofList (cs.takeWhile (· != ':')))).map fun kind => (.ascii kind negated, rest)
    | _ => none
  | _ => none

/-- A character or an escape inside brackets. -/
def classPrimitive : Reader Primitive := do
  match ← peek with
  | none => fail .classUnclosed
  | some '\\' => escape
  | some c =>
    skip
    return .literal ⟨c, false⟩

def itemOf : Primitive → Reader ClassItem
  | .literal l => return .literal l
  | .property query negated => return .property query negated
  | .shorthand kind negated => return .shorthand kind negated
  | .dot => fail .classEscape
  | .assertion _ => fail .classEscape

def literalOf : Primitive → Reader Literal
  | .literal l => return l
  | _ => fail .classRangeEnd

/-- A single item or a range. -/
def classRange : Reader ClassItem := do
  let first ← classPrimitive
  skipBlanks
  match ← peek with
  | none => fail .classUnclosed
  | some c =>
    let after ← peekAfter
    if c != '-' || after == some ']' || after == some '-' then itemOf first
    else
      if (← advance).isNone then fail .classUnclosed
      let last ← classPrimitive
      let low ← literalOf first
      let high ← literalOf last
      if high.char < low.char then fail .classRangeReversed
      return .range low high

/-- The hyphens at the front of a class, which are literal. -/
def leadingHyphens : Nat → Reader (List ClassItem)
  | 0 => return []
  | fuel + 1 => do
    if (← peek) == some '-' then
      if (← advance).isNone then fail .classUnclosed
      return .literal ⟨'-', false⟩ :: (← leadingHyphens fuel)
    else return []

/-- The front of a class, its bracket being next: whether it is negated, and
the items that only stand there. -/
def classOpening : Reader (Bool × List ClassItem) := do
  if (← advance).isNone then fail .classUnclosed
  let negated := (← peek) == some '^'
  if negated then
    if (← advance).isNone then fail .classUnclosed
  let hyphens ← leadingHyphens (← get).rest.length
  if hyphens.isEmpty && (← peek) == some ']' then
    if (← advance).isNone then fail .classUnclosed
    return (negated, [.literal ⟨']', false⟩])
  return (negated, hyphens)

/-- The two characters of a set operator. -/
def setOperator? : List Char → Option SetOperator
  | '&' :: '&' :: _ => some .intersection
  | '-' :: '-' :: _ => some .difference
  | '~' :: '~' :: _ => some .symmetricDifference
  | _ => none

/-- The operand that was waiting for its right side, joined to it. -/
def applyPending (pending : Option (SetOperator × ClassItem)) (item : ClassItem) : ClassItem :=
  match pending with
  | none => item
  | some (op, left) => .operation op left item

mutual

/-- A class, its bracket being next. -/
def bracketed : Nat → Reader (Bool × ClassItem)
  | 0 => fail .classUnclosed
  | fuel + 1 => do
    let (negated, items) ← classOpening
    let item ← classItems fuel none items.reverse
    return (negated, item)

/-- The items up to the closing bracket. `pending` is what stands left of the
last operator, `done` the items since then in reverse. -/
def classItems : Nat → Option (SetOperator × ClassItem) → List ClassItem → Reader ClassItem
  | 0, _, _ => fail .classUnclosed
  | fuel + 1, pending, done => do
    skipBlanks
    let s ← get
    match s.rest with
    | [] => fail .classUnclosed
    | '[' :: _ =>
      match namedClass? s.rest with
      | some (item, rest) =>
        set { s with rest := rest }
        classItems fuel pending (item :: done)
      | none =>
        let (negated, item) ← bracketed fuel
        classItems fuel pending (.bracketed negated item :: done)
    | ']' :: _ =>
      skip
      return applyPending pending (.ofList done.reverse)
    | cs =>
      match setOperator? cs with
      | some op =>
        skip
        skip
        classItems fuel (some (op, applyPending pending (.ofList done.reverse))) []
      | none =>
        let item ← classRange
        classItems fuel pending (item :: done)

end

/-! ## Groups -/

def flag? : Char → Option Flag
  | 'i' => some .ignoreCase
  | 'm' => some .multiLine
  | 's' => some .dotAll
  | 'U' => some .swapGreed
  | 'u' => some .unicode
  | 'R' => some .carriageReturn
  | 'x' => some .verbose
  | _ => none

/-- The options of a directive up to its colon or parenthesis, and whether the
last character was the negation. `on` is the state that options are now
switched to, `done` what was read so far in reverse. -/
def options : Nat → Bool → Bool → Flags → Reader Flags
  | 0, _, _, _ => fail .optionsUnfinished
  | fuel + 1, on, dangling, done => do
    match ← peek with
    | none => fail .optionsUnfinished
    | some c =>
      if c == ':' || c == ')' then
        if dangling then fail .negationDangling else return done.reverse
      else if c == '-' then
        if !on then fail .negationRepeated
        skip
        options fuel false true done
      else match flag? c with
        | none => fail .optionUnknown
        | some flag =>
          if done.any (·.1 = flag) then fail .optionRepeated
          skip
          options fuel on false ((flag, on) :: done)

/-- What a group's name may hold; `first` for its first character. -/
def isNameChar (first : Bool) (c : Char) : Bool :=
  c == '_' || Unicode.isLetter c ||
    (!first && (c == '.' || c == '[' || c == ']' || Unicode.isNumber c))

/-- The name of a group up to its closing bracket. -/
def groupName : Nat → Bool → Reader (List Char)
  | 0, _ => fail .groupNameUnfinished
  | fuel + 1, first => do
    match ← peek with
    | none => fail .groupNameUnfinished
    | some '>' =>
      skip
      return []
    | some c =>
      if !isNameChar first c then fail .groupNameInvalid
      skip
      return c :: (← groupName fuel false)

/-- What a group's parenthesis starts: a group, or (without one) a directive
for the rest of the enclosing group. -/
def groupOpening : Reader (GroupKind × Bool) := do
  let _ ← advance
  for text in ["?=", "?!", "?<=", "?<!"] do
    if ← take? text then fail .lookAround
  let named ← if ← take? "?P<" then pure true else take? "?<"
  if named then
    let name := String.ofList (← groupName ((← get).rest.length + 1) true)
    if name.isEmpty then fail .groupNameEmpty
    if (← get).names.contains name then fail .groupNameRepeated
    modify fun s => { s with names := name :: s.names }
    return (.capture, true)
  else if ← take? "?" then
    if (← peek).isNone then fail .groupUnclosed
    let flags ← options ((← get).rest.length + 1) true false []
    let closing ← peek
    skip
    if closing == some ')' then
      if flags.isEmpty then fail .repetitionMissing
      return (.scope flags, false)
    else return (.scope flags, true)
  else return (.capture, true)

/-- The state of the verbose option after a directive. -/
def verboseAfter (flags : Flags) (verbose : Bool) : Bool := (flags.lookup .verbose).getD verbose

/-- What a repetition operator may stand after. -/
def repeatable : List Syntax → Reader (Syntax × List Syntax)
  | [] => fail .repetitionMissing
  | .empty :: _ => fail .repetitionMissing
  | .flags _ :: _ => fail .repetitionMissing
  | s :: rest => return (s, rest)

def syntaxOf : Primitive → Syntax
  | .literal l => .literal l
  | .assertion a => .assertion a
  | .dot => .dot
  | .property query negated => .property query negated
  | .shorthand kind negated => .shorthand kind negated

/-- A single character or escape outside brackets. -/
def primitive (c : Char) : Reader Syntax := do
  if c == '\\' then return syntaxOf (← escape)
  skip
  match c with
  | '.' => return .dot
  | '^' => return .assertion .startLine
  | '$' => return .assertion .endLine
  | _ => return .literal ⟨c, false⟩

mutual

/-- Branches up to the end of the text or the parenthesis that closes the
group, which is left. `branches` and `parts` are what was read so far in
reverse. -/
def alternation : Nat → List Syntax → List Syntax → Reader Syntax
  | 0, _, _ => fail .groupUnclosed
  | fuel + 1, branches, parts => do
    skipBlanks
    match ← peek with
    | none => return .ofBranches (.ofParts parts.reverse :: branches).reverse
    | some ')' => return .ofBranches (.ofParts parts.reverse :: branches).reverse
    | some '|' =>
      skip
      alternation fuel (.ofParts parts.reverse :: branches) []
    | some '(' =>
      let part ← group fuel
      alternation fuel branches (part :: parts)
    | some '[' =>
      let (negated, item) ← bracketed fuel
      alternation fuel branches (.bracketed negated item :: parts)
    | some '\x7b' =>
      let (body, rest) ← repeatable parts
      let (greedy, low, high) ← bounds
      alternation fuel branches (.repetition greedy body low high :: rest)
    | some c =>
      if c == '?' || c == '*' || c == '+' then
        let (body, rest) ← repeatable parts
        skip
        let greedy ← greed
        let low := if c == '+' then 1 else 0
        let high := if c == '?' then some 1 else none
        alternation fuel branches (.repetition greedy body low high :: rest)
      else
        let part ← primitive c
        alternation fuel branches (part :: parts)

/-- A group or directive, its parenthesis being next. -/
def group : Nat → Reader Syntax
  | 0 => fail .groupUnclosed
  | fuel + 1 => do
    let (kind, hasBody) ← groupOpening
    let outer := (← get).verbose
    let flags := match kind with
      | .capture => []
      | .scope flags => flags
    modify fun s => { s with verbose := verboseAfter flags outer }
    if hasBody then
      let body ← alternation fuel [] []
      if (← peek) != some ')' then fail .groupUnclosed
      modify fun s => { s with rest := s.rest.drop 1, verbose := outer }
      return .group kind body
    else return .flags flags

end

end Reader

/-- The syntax tree of a pattern text. -/
def Syntax.read (source : String) : Except Fault Syntax := do
  let cs := source.toList
  let (tree, cursor) ← (Reader.alternation (3 * cs.length + 10) [] []).run ⟨cs, false, []⟩
  if !cursor.rest.isEmpty then throw .groupUnopened
  if maxDepth < tree.depth then throw .nestedTooDeep
  return tree

end RecordFilter.Pattern
