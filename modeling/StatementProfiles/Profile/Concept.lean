import StatementProfiles.Concept.Basic

/-!
# Concepts of a profile

A concept as a profile declares it: an entry of the vocabulary with further properties, which are kept as they are
written.
-/

namespace StatementProfiles

/-- A concept as a profile declares it. -/
structure ConceptDefinition where
  id : String
  kind : ConceptKind
  inScheme : Option String
  prefLabel : LanguageMap
  definition : LanguageMap
  /-- The other properties. -/
  extra : Members Json
deriving DecidableEq, Repr, Inhabited

namespace ConceptDefinition

/-- The names of the fields. -/
def fieldNames : List String := ["id", "type", "inScheme", "prefLabel", "definition"]

/-- The entries under other names than those of the fields. The keys in them are texts. -/
def extras? : List (Datum × Datum) → Option (List (String × Json))
  | [] => some []
  | (k, d) :: rest =>
    k.text?.bind fun name => (extras? rest).bind fun more =>
      if fieldNames.contains name then some more else d.strictJson?.map fun j => (name, j) :: more

/-- The concept as written; it is never written as an array. -/
def ofDatum? (d : Datum) : Option ConceptDefinition :=
  d.entries?.bind fun entries =>
  ((Datum.Slots.known? fieldNames entries).map Datum.Slots.named).bind fun slots =>
  (slots.required? "id" Datum.text?).bind fun id =>
  (slots.required? "type" Concept.kind?).bind fun kind =>
  (slots.optional? "inScheme" Datum.text?).bind fun inScheme =>
  (slots.withDefault? "prefLabel" [] Datum.texts?).bind fun prefLabel =>
  (slots.withDefault? "definition" [] Datum.texts?).bind fun definition =>
  (extras? entries).map fun extra => ⟨id, kind, inScheme, prefLabel, definition, Members.ofList extra⟩

/-- The concept as an object. -/
def toJson (c : ConceptDefinition) : Json :=
  .ofPairs ([("id", Json.string c.id), ("type", .string c.kind.name)]
    ++ (c.inScheme.toList.map fun s => ("inScheme", .string s))
    ++ [("prefLabel", .ofTexts c.prefLabel), ("definition", .ofTexts c.definition)]
    ++ c.extra)

/-- The concept of the vocabulary. -/
def toConcept (c : ConceptDefinition) : Concept := ⟨c.id, c.kind, c.prefLabel, c.definition, c.inScheme⟩

end ConceptDefinition

end StatementProfiles
