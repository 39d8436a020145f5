import RecordFilter.Pattern.Property

/-!
# Regular expressions

A regular expression here has no options left: classes are sets of characters
and assertions look at the characters on both sides of a position. Whether a
repetition is greedy and whether a class was written under Unicode does not
matter to a match, since only its existence is asked for; it tells expressions
apart.
-/

namespace RecordFilter.Pattern

/-- A condition on the characters before and after a position. -/
inductive Look where
  | start
  | finish
  | startLine
  | endLine
  | startLineReturn
  | endLineReturn
  | boundary (unicode : Bool)
  | notBoundary (unicode : Bool)
  | wordStart (unicode : Bool)
  | wordEnd (unicode : Bool)
  | wordStartHalf (unicode : Bool)
  | wordEndHalf (unicode : Bool)
  deriving DecidableEq

inductive Regex where
  | empty
  | literal (text : List Char)
  | chars (unicode : Bool) (set : CharSet)
  | look (l : Look)
  | group (body : Regex)
  | repetition (greedy : Bool) (body : Regex) (min : Nat) (max : Option Nat)
  | alternation (branches : List Regex)
  | concatenation (parts : List Regex)

/-- Whether a character that may be missing is part of a word. -/
def isWord (unicode : Bool) (c : Option Char) : Bool :=
  match c with
  | some c => (Shorthand.word.set unicode).contains c
  | none => false

/-- Whether the condition holds between two characters. -/
def Look.holds (before after : Option Char) : Look → Bool
  | .start => before.isNone
  | .finish => after.isNone
  | .startLine => before.isNone || before == some '\n'
  | .endLine => after.isNone || after == some '\n'
  | .startLineReturn =>
    before.isNone || before == some '\n' || (before == some '\r' && after != some '\n')
  | .endLineReturn =>
    after.isNone || after == some '\r' || (after == some '\n' && before != some '\r')
  | .boundary u => isWord u before != isWord u after
  | .notBoundary u => isWord u before == isWord u after
  | .wordStart u => !isWord u before && isWord u after
  | .wordEnd u => isWord u before && !isWord u after
  | .wordStartHalf u => !isWord u before
  | .wordEndHalf u => !isWord u after

end RecordFilter.Pattern
