import RecordFilter.Pattern.Syntax
import RecordFilter.Unicode.Age
import RecordFilter.Unicode.BinaryProperty
import RecordFilter.Unicode.Break
import RecordFilter.Unicode.CaseFolding
import RecordFilter.Unicode.GeneralCategory
import RecordFilter.Unicode.Script

/-!
# Character classes by name

The sets behind the names that patterns use for classes. Names of properties
match loosely: case, blanks, hyphens, underscores and a leading `is` do not
count. A name alone is looked up as a binary property, then as a general
category, then as a script; a name with a value asks for one category, script,
age or break class.
-/

namespace RecordFilter.Pattern

/-- The part of a property name that counts. -/
def looseName (name : String) : String :=
  let cs := name.toList
  let lower (cs : List Char) : String :=
    String.ofList ((cs.filter fun c => c.toNat < 128 && c != ' ' && c != '_' && c != '-').map Char.toLower)
  match cs with
  | a :: b :: rest =>
    if a.toLower == 'i' && b.toLower == 's' then
      let short := lower rest
      if short == "c" then "isc" else short
    else lower cs
  | _ => lower cs

/-- The entry of a name table that lists a name. -/
def findNamed? {α : Type} (name : String) (table : List (List String × α)) : Option α :=
  (table.find? fun (names, _) => names.any (looseName · == name)).map (·.2)

def binaryProperty? (name : String) : Option CharSet :=
  (findNamed? name Unicode.binaryProperties).map Unicode.ofGaps

/-- A general category, or one of three sets named like one. -/
def category? (name : String) : Option CharSet :=
  if name == "any" then some (.range 0 CharSet.maxCode)
  else if name == "ascii" then some (.range 0 127)
  else if name == "assigned" then some (Unicode.inCategories ["Cn"]).compl
  else (findNamed? name Unicode.categoryNames).map Unicode.inCategories

/-- The four-letter name of a script. -/
def script? (name : String) : Option String :=
  (Unicode.scriptNames.find? (·.any (looseName · == name))).bind List.head?

/-- The names that are a category although they also abbreviate a property. -/
def isCategoryFirst (name : String) : Bool := name == "cf" || name == "sc" || name == "lc"

/-- The characters assigned in a version of the standard or before it. -/
def age? (version : String) : Option CharSet :=
  (Unicode.ageTable.findIdx? fun (names, _) => names.any (looseName · == version)).map fun i =>
    Unicode.assignedBy (i + 1)

/-- The characters of a break class. -/
def breakClass? (p : Unicode.BreakProperty) (name : String) : Option CharSet :=
  ((p.classes.find? (·.any (looseName · == name))).bind List.head?).map p.inClass

/-- The properties that take a value. -/
inductive ValuedProperty where
  | category
  | script
  | scriptExtensions
  | age
  | graphemeBreak
  | wordBreak
  | sentenceBreak

def ValuedProperty.named? : String → Option ValuedProperty
  | "gc" => some .category
  | "generalcategory" => some .category
  | "sc" => some .script
  | "script" => some .script
  | "scx" => some .scriptExtensions
  | "scriptextensions" => some .scriptExtensions
  | "age" => some .age
  | "gcb" => some .graphemeBreak
  | "graphemeclusterbreak" => some .graphemeBreak
  | "wb" => some .wordBreak
  | "wordbreak" => some .wordBreak
  | "sb" => some .sentenceBreak
  | "sentencebreak" => some .sentenceBreak
  | _ => none

/-- The characters for which a property has a value. -/
def ValuedProperty.set? (value : String) : ValuedProperty → Option CharSet
  | .category => category? value
  | .script => (script? value).map Unicode.inScript
  | .scriptExtensions => (script? value).map Unicode.usedByScript
  | .age => age? value
  | .graphemeBreak => breakClass? Unicode.graphemeBreak value
  | .wordBreak => breakClass? Unicode.wordBreak value
  | .sentenceBreak => breakClass? Unicode.sentenceBreak value

/-- The set that a property query names. -/
def PropertyQuery.set? : PropertyQuery → Option CharSet
  | .named name =>
    let name := looseName name
    let binary := if isCategoryFirst name then none else binaryProperty? name
    (binary.or (category? name)).or ((script? name).map Unicode.inScript)
  | .valued name value =>
    (ValuedProperty.named? (looseName name)).bind (·.set? (looseName value))

/-- The ASCII characters of a named class. -/
def AsciiClass.set : AsciiClass → CharSet
  | .alnum => ⟨[(48, 57), (65, 90), (97, 122)]⟩
  | .alpha => ⟨[(65, 90), (97, 122)]⟩
  | .ascii => ⟨[(0, 127)]⟩
  | .blank => ⟨[(9, 9), (32, 32)]⟩
  | .cntrl => ⟨[(0, 31), (127, 127)]⟩
  | .digit => ⟨[(48, 57)]⟩
  | .graph => ⟨[(33, 126)]⟩
  | .lower => ⟨[(97, 122)]⟩
  | .print => ⟨[(32, 126)]⟩
  | .punct => ⟨[(33, 47), (58, 64), (91, 96), (123, 126)]⟩
  | .space => ⟨[(9, 13), (32, 32)]⟩
  | .upper => ⟨[(65, 90)]⟩
  | .word => ⟨[(48, 57), (65, 90), (95, 95), (97, 122)]⟩
  | .xdigit => ⟨[(48, 57), (65, 70), (97, 102)]⟩

/-- The characters of words: letters, marks, decimal digits, connecting
punctuation and the joiners. -/
def wordSet : CharSet :=
  .ofRanges ((Unicode.ofGaps Unicode.alphabeticTable).ranges ++
    (Unicode.inCategories ["Mn", "Mc", "Me", "Nd", "Pc"]).ranges ++
    (Unicode.ofGaps Unicode.joinControlTable).ranges)

def digitSet : CharSet := Unicode.inCategories ["Nd"]

def spaceSet : CharSet := Unicode.ofGaps Unicode.whiteSpaceTable

/-- The characters of a shorthand class, in Unicode or in ASCII. -/
def Shorthand.set (unicode : Bool) : Shorthand → CharSet
  | .digit => if unicode then digitSet else AsciiClass.digit.set
  | .space => if unicode then spaceSet else AsciiClass.space.set
  | .word => if unicode then wordSet else AsciiClass.word.set

end RecordFilter.Pattern
