import StatementProfiles.Profile.Concept
import StatementProfiles.Profile.Pattern
import StatementProfiles.Profile.Version
import StatementProfiles.Template.Basic

/-!
# Profiles

A `Profile` is a document that declares concepts, statement templates and patterns, each under an IRI. Its first
version is the current one.
-/

namespace StatementProfiles

/-- A profile document. -/
structure Profile where
  id : String
  type : Option String
  /-- The context for linked data, kept as written. -/
  context : Option Json
  conformsTo : Option String
  prefLabel : LanguageMap
  definition : LanguageMap
  /-- The author, kept as written. -/
  author : Option Json
  /-- The versions, the current one first. -/
  versions : List ProfileVersion
  concepts : List ConceptDefinition
  templates : List TemplateDefinition
  patterns : List PatternDefinition
deriving DecidableEq, Repr, Inhabited

namespace Profile

/-- The names of the fields in their order. -/
def fieldNames : List String :=
  ["id", "type", "@context", "conformsTo", "prefLabel", "definition", "author", "versions", "concepts", "templates",
    "patterns"]

/-- The parts of a text that matter for a profile. -/
def outline : Yaml.Outline :=
  .ofFields fieldNames [
    ("versions", .list ProfileVersion.outline),
    ("templates", .list TemplateDefinition.outline),
    ("patterns", .list PatternDefinition.outline)]

/-- The profile as written. -/
def ofDatum? (d : Datum) : Option Profile :=
  (Datum.Slots.of? fieldNames d).bind fun slots =>
  (slots.required? "id" Datum.text?).bind fun id =>
  (slots.optional? "type" Datum.text?).bind fun type =>
  (slots.optional? "@context" Datum.json?).bind fun context =>
  (slots.optional? "conformsTo" Datum.text?).bind fun conformsTo =>
  (slots.withDefault? "prefLabel" [] Datum.texts?).bind fun prefLabel =>
  (slots.withDefault? "definition" [] Datum.texts?).bind fun definition =>
  (slots.optional? "author" Datum.json?).bind fun author =>
  (slots.required? "versions" (Datum.list? ProfileVersion.ofDatum?)).bind fun versions =>
  (slots.withDefault? "concepts" [] (Datum.list? ConceptDefinition.ofDatum?)).bind fun concepts =>
  (slots.withDefault? "templates" [] (Datum.list? TemplateDefinition.ofDatum?)).bind fun templates =>
  (slots.withDefault? "patterns" [] (Datum.list? PatternDefinition.ofDatum?)).map fun patterns =>
    ⟨id, type, context, conformsTo, prefLabel, definition, author, versions, concepts, templates, patterns⟩

/-- The profile as an object. -/
def toJson (p : Profile) : Json :=
  .ofPairs ([("id", Json.string p.id)]
    ++ (p.type.toList.map fun s => ("type", .string s))
    ++ (p.context.toList.map fun j => ("@context", j))
    ++ (p.conformsTo.toList.map fun s => ("conformsTo", .string s))
    ++ [("prefLabel", .ofTexts p.prefLabel), ("definition", .ofTexts p.definition)]
    ++ (p.author.toList.map fun j => ("author", j))
    ++ [("versions", .array (p.versions.map ProfileVersion.toJson)),
      ("concepts", .array (p.concepts.map ConceptDefinition.toJson)),
      ("templates", .array (p.templates.map TemplateDefinition.toJson)),
      ("patterns", .array (p.patterns.map PatternDefinition.toJson))])

/-- The version listed first. -/
def currentVersion (p : Profile) : Option ProfileVersion := p.versions.head?

/-- The label in a language, or any label, or the IRI. -/
def label (p : Profile) (language : String) : String := (p.prefLabel.text? language).getD p.id

/-- The entries of a profile with their IRIs, in the order of the document. -/
def entries (p : Profile) : List (Entry × String) :=
  (p.versions.map fun v => (.version, v.id)) ++ (p.concepts.map fun c => (.concept, c.id))
    ++ (p.templates.map fun t => (.template, t.id)) ++ (p.patterns.map fun q => (.pattern, q.id))

/-- Every IRI that the profile introduces, its own first. -/
def ids (p : Profile) : List String := p.id :: p.entries.map Prod.snd

/-! ## Structure -/

/-- The checks of the entries: each has an absolute IRI, which no entry before it has. -/
def checkEntries (profile : String) : (seen : List String) → List (Entry × String) → Except Error Unit
  | _, [] => .ok ()
  | seen, (entry, id) :: rest =>
    if !isAbsoluteIri id then .error (.structural (.relativeId entry id profile))
    else if seen.contains id then .error (.structural (.duplicateId id profile))
    else checkEntries profile (id :: seen) rest

/-- The check of a pattern: it has one operator, and that has children. -/
def checkPattern (p : PatternDefinition) : Except Error Unit :=
  match p.operator with
  | .error e => .error e
  | .ok operator => if operator.children.isEmpty then .error (.structural (.noChildren p.id)) else .ok ()

/-- The checks of patterns in their order. -/
def checkPatterns : List PatternDefinition → Except Error Unit
  | [] => .ok ()
  | p :: rest => match checkPattern p with
    | .error e => .error e
    | .ok () => checkPatterns rest

/-- The first fault in the structure of a profile by itself. -/
def validate (p : Profile) : Except Error Unit :=
  if !isAbsoluteIri p.id then .error (.structural (.relativeProfile p.id))
  else if p.versions.isEmpty then .error (.structural (.noVersions p.id))
  else match checkEntries p.id [] p.entries with
    | .error e => .error e
    | .ok () => checkPatterns p.patterns

end Profile

end StatementProfiles
