import StatementProfiles.Document.Path

/-!
# Editing histories

A `History` is a document with every version that edits made of it. An edit starts from any version and makes a new
one; one that leaves the document alone (taking out what is not there) shares the version it started from.
-/

namespace StatementProfiles

/-- A change of a document. -/
inductive Edit where
  | set (path : Path) (value : Json)
  | push (path : Path) (value : Json)
  | remove (path : Path)
deriving Repr, Inhabited

namespace Edit

/-- The changed document. -/
def apply (doc : Json) : Edit → Json
  | .set path value => doc.set path value
  | .push path value => doc.push path value
  | .remove path => doc.remove path

/-- Whether the edit leaves the document as it is, without making another. -/
def leavesAlone (doc : Json) : Edit → Bool
  | .remove path => !path.isEmpty && !doc.contains path
  | _ => false

end Edit

/-- The versions of a document in the order in which they were made. -/
structure History where
  versions : List Json
deriving Repr, Inhabited

namespace History

/-- The history of a document before any edit. -/
def start (doc : Json) : History := ⟨[doc]⟩

/-- A version by its number, the latest one by default. -/
def version? (h : History) (number : Option Nat) : Option Json :=
  match number with
  | some n => h.versions[n]?
  | none => h.versions.getLast?

/-- The history with a version behind the others. -/
def record (h : History) (doc : Json) : History := ⟨h.versions ++ [doc]⟩

end History

end StatementProfiles
