/-!
# Tries of literals

A choice between literals is laid out as a trie. At a node where a literal ends
the branches that were there before go first: they form a closed group, and
later ones start a new group behind it. Each group is in the order of its
bytes.
-/

namespace RecordFilter.Pattern

inductive LiteralTrie where
  | node (closed : List (List (Nat × LiteralTrie))) (last : List (Nat × LiteralTrie))

namespace LiteralTrie

def empty : LiteralTrie := .node [] []

/-- No literal goes on from here. -/
def isLeaf : LiteralTrie → Bool
  | .node closed last => closed.all List.isEmpty && last.isEmpty

/-- Marks the end of a literal. A leaf is marked once. -/
def close : LiteralTrie → LiteralTrie
  | .node closed last =>
    if (LiteralTrie.node closed last).isLeaf && !closed.isEmpty then .node closed last
    else .node (closed ++ [last]) []

/-- Changes the branch of a byte in a group; without one, a new branch. -/
def change (b : Nat) (f : LiteralTrie → LiteralTrie) :
    List (Nat × LiteralTrie) → List (Nat × LiteralTrie)
  | [] => [(b, f empty)]
  | (c, t) :: rest =>
    if b < c then (b, f empty) :: (c, t) :: rest
    else if b = c then (c, f t) :: rest
    else (c, t) :: change b f rest

/-- Adds a literal, given by its bytes. -/
def insert : List Nat → LiteralTrie → LiteralTrie
  | [], t => t.close
  | b :: bs, .node closed last => .node closed (change b (insert bs) last)

/-- The trie of some literals, added one after the other. -/
def ofList (literals : List (List Nat)) : LiteralTrie :=
  literals.foldl (fun t bs => t.insert bs) empty

end LiteralTrie

end RecordFilter.Pattern
