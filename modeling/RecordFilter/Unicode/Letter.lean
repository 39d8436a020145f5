import RecordFilter.Unicode.BinaryProperty
import RecordFilter.Unicode.GeneralCategory

/-!
# Letters and numbers

The tables of properties follow version 16.0 of the standard. Names may be
spelled with the letters and numbers of version 17.0, which adds to them and
takes none away; two short tables in gap notation hold the additions.
-/

namespace RecordFilter.Unicode

/-- The letters that version 17.0 adds. -/
def laterLetterTable : String :=
  String.join [
    "2191 1 972 1 127 1 39665 2 2 1 1 1 28 1 24910 26 1387 3 50 2 3172 8 584 44 20676 25 2 25 286",
    " 5 6145 8 1289 22 97 115 22733 31 1 22 8 2 53306 6 5986 12 21762 4298"]

/-- The numbers that version 17.0 adds. -/
def laterNumberTable : String := "73184 10 21002 3"

/-- Whether a character is a letter in the sense of the property `Alphabetic`. -/
def isLetter (c : Char) : Bool :=
  (ofGaps alphabeticTable).contains c || (ofGaps laterLetterTable).contains c

/-- Whether a character is a number in the sense of the general categories. -/
def isNumber (c : Char) : Bool :=
  (inCategories ["Nd", "Nl", "No"]).contains c || (ofGaps laterNumberTable).contains c

end RecordFilter.Unicode
