import StatementProfiles.Concept.Basic
import StatementProfiles.Error

/-!
# Looking concepts up

A `Lookup` answers which single concept of a kind an identifier stands for. A `Resolver` asks several lookups in order,
and the first answer wins; an identifier that is an IRI may only be answered by a concept with that IRI.
-/

namespace StatementProfiles

/-- The concepts gathered from profiles, in the order of their registration. -/
structure Vocabulary where
  concepts : List Concept
  /-- The places of the concepts of each kind. -/
  places : ConceptKind → List Nat

namespace Vocabulary

/-- The vocabulary without concepts. -/
def empty : Vocabulary := ⟨[], fun _ => []⟩

/-- The vocabulary with a concept behind the others. -/
def insert (v : Vocabulary) (c : Concept) : Vocabulary :=
  { concepts := v.concepts ++ [c]
    places := fun kind => if kind = c.kind then v.places kind ++ [v.concepts.length] else v.places kind }

/-- The vocabulary with several concepts behind the others. -/
def extend (v : Vocabulary) (cs : List Concept) : Vocabulary := cs.foldl insert v

/-- The concepts of a kind. -/
def ofKind (v : Vocabulary) (kind : ConceptKind) : List Concept :=
  (v.places kind).filterMap fun place => v.concepts[place]?

/-- Whether a concept has the IRI, of any kind. -/
def containsId (v : Vocabulary) (id : String) : Bool := v.concepts.any fun c => c.id == id

/-- The last of several concepts, unless one has another IRI than the one before it. -/
def agreed? : List Concept → Option Concept
  | [] => none
  | [c] => some c
  | c :: d :: cs => if d.id == c.id then agreed? (d :: cs) else none

/-- The concept of a kind that an identifier stands for: the first with that IRI; failing that, the concept with that
label, unless concepts with different IRIs share it. -/
def lookup? (v : Vocabulary) (identifier : String) (kind : ConceptKind) : Option Concept :=
  match (v.ofKind kind).find? fun c => c.id == identifier with
  | some c => some c
  | none => agreed? ((v.ofKind kind).filter fun c => c.isNamed identifier)

end Vocabulary

/-- Concepts under names of their own, the latest entry in front. -/
structure AliasTable where
  entries : List (String × Concept)
deriving DecidableEq, Repr, Inhabited

namespace AliasTable

/-- The table with a concept under a name; it hides an earlier concept of the same kind there. -/
def insert (t : AliasTable) (name : String) (c : Concept) : AliasTable := ⟨(name, c) :: t.entries⟩

/-- The concept of a kind under a name. -/
def lookup? (t : AliasTable) (identifier : String) (kind : ConceptKind) : Option Concept :=
  (t.entries.find? fun e => e.1 == identifier && e.2.kind == kind).map Prod.snd

end AliasTable

/-- A source of concepts. -/
inductive Lookup where
  /-- Every IRI stands for itself. -/
  | anyIri
  | vocabulary (v : Vocabulary)
  | aliases (t : AliasTable)
  /-- A source of the caller's own. -/
  | custom (answer : String → ConceptKind → Option Concept)

/-- The concept that an identifier stands for in a source. -/
def Lookup.lookup? : Lookup → String → ConceptKind → Option Concept
  | .anyIri, identifier, kind => if isIri identifier then some (.bare identifier kind) else none
  | .vocabulary v, identifier, kind => v.lookup? identifier kind
  | .aliases t, identifier, kind => t.lookup? identifier kind
  | .custom answer, identifier, kind => answer identifier kind

/-- Lookups in the order in which they are asked. -/
structure Resolver where
  lookups : List Lookup

namespace Resolver

/-- The lookups, and after them every IRI for itself. -/
def withAnyIri (lookups : List Lookup) : Resolver := ⟨lookups ++ [.anyIri]⟩

/-- The answer of one lookup; for an IRI only a concept with that IRI counts. -/
def answer? (identifier : String) (kind : ConceptKind) (l : Lookup) : Option Concept :=
  (l.lookup? identifier kind).filter fun c => !isIri identifier || c.id == identifier

/-- The concept of a kind that an identifier stands for. -/
def resolve (r : Resolver) (identifier : String) (kind : ConceptKind) : Except Error Concept :=
  match r.lookups.findSome? (answer? identifier kind) with
  | some c => .ok c
  | none => .error (.unresolved identifier kind)

end Resolver

end StatementProfiles
