import StatementProfiles.Text.Folding

/-!
# Sets of characters

A `CharSet` is built from ranges and from stretches of code points by union, intersection and complement, and may be
widened to the variants of its characters in letter case.
-/

namespace StatementProfiles

/-- A set of characters. -/
inductive CharSet where
  | range (first last : Char)
  | stretches (parts : List Stretch)
  | none
  | union (a b : CharSet)
  | inter (a b : CharSet)
  | complement (a : CharSet)
  | anyCase (a : CharSet)
deriving Repr, Inhabited

namespace CharSet

/-- Whether a character is in the set. -/
def contains : CharSet → Char → Bool
  | .range first last, c => first ≤ c && c ≤ last
  | .stretches parts, c => parts.any fun s => s.contains c.toNat
  | .none, _ => false
  | .union a b, c => a.contains c || b.contains c
  | .inter a b, c => a.contains c && b.contains c
  | .complement a, c => !a.contains c
  | .anyCase a, c => (caseVariants c).any fun d => a.contains d

/-- The set of one character. -/
def single (c : Char) : CharSet := .range c c

/-- The union of several sets. -/
def unions (sets : List CharSet) : CharSet := sets.foldl .union .none

/-- The characters of the first set that are not in the second. -/
def diff (a b : CharSet) : CharSet := .inter a (.complement b)

/-- The characters of exactly one of two sets. -/
def symmDiff (a b : CharSet) : CharSet := .union (a.diff b) (b.diff a)

/-- The set that a text of stretches writes. -/
def ofText (text : String) : CharSet := .stretches (Stretch.listOf text)

end CharSet

/-- A table of characters with the names it goes by, in small letters without separators. -/
structure NamedSet where
  names : List String
  text : String

/-- The characters of the table with a name. -/
def NamedSet.find? (tables : List NamedSet) (name : String) : Option CharSet :=
  (tables.find? fun entry => entry.names.contains name).map fun entry => .ofText entry.text

end StatementProfiles
