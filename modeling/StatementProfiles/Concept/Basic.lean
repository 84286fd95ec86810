import StatementProfiles.Concept.Kind
import StatementProfiles.Datum
import StatementProfiles.Iri

/-!
# Concepts

A `Concept` is an entry of a vocabulary: an IRI of one kind with labels in several languages. It is named by its IRI
and by each of its labels.
-/

namespace StatementProfiles

/-- Texts by language tag. -/
abbrev LanguageMap := Members String

namespace LanguageMap

/-- The text in a language, or else the text of the first tag. -/
def text? (texts : LanguageMap) (language : String) : Option String :=
  match Members.find? texts language with
  | some s => some s
  | none => (Members.values texts).head?

end LanguageMap

/-- An entry of a vocabulary. -/
structure Concept where
  /-- The IRI. -/
  id : String
  kind : ConceptKind
  /-- Display names by language tag. -/
  prefLabel : LanguageMap
  /-- Definitions by language tag. -/
  definition : LanguageMap
  /-- The profile version that defines the concept. -/
  inScheme : Option String
deriving DecidableEq, Repr, Inhabited

namespace Concept

/-- A concept without labels. -/
def bare (id : String) (kind : ConceptKind) : Concept := ⟨id, kind, [], [], none⟩

/-- Whether the IRI or a label is the identifier. -/
def isNamed (c : Concept) (identifier : String) : Bool :=
  c.id == identifier || (Members.values c.prefLabel).contains identifier

/-- The labels as a language map, if there are any. -/
def display? (c : Concept) : Option Json :=
  if c.prefLabel.isEmpty then none else some (.ofTexts c.prefLabel)

/-- The concept as an object; a missing scheme is left out. -/
def toJson (c : Concept) : Json :=
  .ofPairs ([("id", .string c.id), ("kind", .string c.kind.name), ("pref_label", .ofTexts c.prefLabel),
    ("definition", .ofTexts c.definition)] ++ c.inScheme.toList.map fun s => ("in_scheme", .string s))

/-- A kind as written. -/
def kind? (d : Datum) : Option ConceptKind := d.choice?.bind ConceptKind.ofName?

/-- The concept as written. -/
def ofDatum? (d : Datum) : Option Concept :=
  (Datum.Slots.of? ["id", "kind", "pref_label", "definition", "in_scheme"] d).bind fun slots =>
  (slots.required? "id" Datum.text?).bind fun id =>
  (slots.required? "kind" kind?).bind fun kind =>
  (slots.withDefault? "pref_label" [] Datum.texts?).bind fun prefLabel =>
  (slots.withDefault? "definition" [] Datum.texts?).bind fun definition =>
  (slots.optionalByName? "in_scheme" Datum.text?).map fun inScheme =>
    ⟨id, kind, prefLabel, definition, inScheme⟩

end Concept

end StatementProfiles
