import StatementProfiles.Concept.Lookup
import StatementProfiles.Document.Options
import StatementProfiles.Registry.Grammar

/-!
# Registries

A `Registry` holds the profiles that have been registered. `Registry.register` adds one as a whole or refuses it, and
then nothing changes. Templates and patterns are found by IRI or by label; grammars of patterns are unfolded when they
are first asked for and kept.
-/

namespace StatementProfiles

/-- Registered profiles with what they declare. -/
structure Registry where
  /-- The profiles in the order of their registration. -/
  profiles : List Profile
  catalog : Catalog
  /-- The concepts, templates and patterns that names may stand for. -/
  vocabulary : Vocabulary
  /-- Further lookups, asked after the vocabulary. -/
  lookups : List Lookup
  /-- What names stand for. -/
  resolver : Resolver
  /-- The grammars that have been unfolded. -/
  grammars : Grammars
  options : BuildOptions
  /-- The number of files that were passed over. -/
  failedFiles : Nat

namespace Registry

/-- What names stand for, given a vocabulary: its concepts, then those of the further lookups; an IRI stands for itself
in the end. -/
def resolverOver (r : Registry) (v : Vocabulary) : Resolver := .withAnyIri (.vocabulary v :: r.lookups)

/-- The registry with the resolver of its own vocabulary and lookups. -/
def rebuildResolver (r : Registry) : Registry := { r with resolver := r.resolverOver r.vocabulary }

/-- The registry without profiles. -/
def empty : Registry :=
  rebuildResolver
    { profiles := [], catalog := .empty, vocabulary := .empty, lookups := [], resolver := .withAnyIri [],
      grammars := [], options := {}, failedFiles := 0 }

/-- The registry with other options. -/
def withOptions (r : Registry) (options : BuildOptions) : Registry := { r with options := options }

/-- The registry with other further lookups. -/
def withLookups (r : Registry) (lookups : List Lookup) : Registry := rebuildResolver { r with lookups := lookups }

/-! ## Registration -/

/-- Every IRI that is in use. -/
def ids (r : Registry) : List String := r.profiles.flatMap Profile.ids

/-- The refusal of an IRI that is in use already, by another profile or before in the same one. -/
def checkIds (profile : String) : (known : List String) → List String → Except Error Unit
  | _, [] => .ok ()
  | known, id :: rest =>
    if known.contains id then .error (.structural (.idTaken id profile)) else checkIds profile (id :: known) rest

/-- The concepts that a profile adds to the vocabulary: its own, its templates and its patterns. -/
def conceptsOf (p : Profile) : List Concept :=
  let version := p.currentVersion.map ProfileVersion.id
  (p.concepts.map ConceptDefinition.toConcept)
    ++ (p.templates.map fun t => ⟨t.id, .template, t.prefLabel, [], version⟩)
    ++ (p.patterns.map fun q => ⟨q.id, .pattern, q.prefLabel, [], version⟩)

/-- The template of a definition with its names resolved. -/
def compileTemplate (resolver : Resolver) (p : Profile) (d : TemplateDefinition) : Except Error Template :=
  (Template.ofDefinition d p.id (p.currentVersion.map ProfileVersion.id)).bind fun t => t.resolveNames resolver

/-- The templates of definitions, or the first failure. -/
def compileTemplates (resolver : Resolver) (p : Profile) : List TemplateDefinition → Except Error (List Template)
  | [] => .ok []
  | d :: rest =>
    match compileTemplate resolver p d with
    | .error e => .error e
    | .ok t => (compileTemplates resolver p rest).map fun ts => t :: ts

/-- The vocabulary with what a profile adds to it. -/
def vocabularyWith (r : Registry) (p : Profile) : Vocabulary := r.vocabulary.extend (conceptsOf p)

/-- The registry with a profile behind the others, its concepts in the vocabulary, and its templates. -/
def add (r : Registry) (p : Profile) (ts : List Template) : Registry :=
  rebuildResolver
    { r with
      profiles := r.profiles ++ [p]
      catalog := r.catalog.extend ts (Catalog.entriesOf p)
      vocabulary := r.vocabularyWith p }

/-- Whether a profile is registered, and the registry after that. The names in its templates may stand for its own
concepts. -/
def register (r : Registry) (p : Profile) : Except Error Unit × Registry :=
  match p.validate with
  | .error e => (.error e, r)
  | .ok () =>
    if r.profiles.any fun q => q.id == p.id then (.error (.structural (.profileTaken p.id)), r)
    else match checkIds p.id r.ids p.ids with
      | .error e => (.error e, r)
      | .ok () => match compileTemplates (r.resolverOver (r.vocabularyWith p)) p p.templates with
        | .error e => (.error e, r)
        | .ok ts => (.ok (), r.add p ts)

/-! ## Queries -/

/-- The template that a name stands for. -/
def template? (r : Registry) (name : String) : Except Error Template :=
  match r.resolver.resolve name .template with
  | .error e => .error e
  | .ok c => match r.catalog.template? c.id with
    | some t => .ok t
    | none => .error (.unresolved name .template)

/-- The pattern that a name stands for. -/
def pattern? (r : Registry) (name : String) : Except Error PatternEntry :=
  match r.resolver.resolve name .pattern with
  | .error e => .error e
  | .ok c => match r.catalog.pattern? c.id with
    | some p => .ok p
    | none => .error (.unresolved name .pattern)

/-- The grammar of the pattern with an IRI, and the registry that keeps it. -/
def grammar (r : Registry) (id : String) : Except Error Pattern × Registry :=
  match r.catalog.grammar r.grammars id with
  | .ok (p, grammars) => (.ok p, { r with grammars := grammars })
  | .error e => (.error e, r)

/-- The templates in the order of their registration. -/
def templates (r : Registry) : List Template := r.catalog.templates.inOrder

/-- The patterns in the order of their registration. -/
def patterns (r : Registry) : List PatternDefinition := r.catalog.patterns.inOrder.map PatternEntry.definition

/-- The patterns that are meant to be followed on their own. -/
def primaryPatterns (r : Registry) : List PatternDefinition := r.patterns.filter PatternDefinition.primary

/-- Counts of what a registry holds. -/
structure Metadata where
  profiles : Nat
  concepts : Nat
  templates : Nat
  patterns : Nat
  failedFiles : Nat
deriving DecidableEq, Repr, Inhabited

/-- The counts of a registry. -/
def metadata (r : Registry) : Metadata :=
  { profiles := r.profiles.length
    concepts := (r.profiles.flatMap Profile.concepts).length
    templates := r.catalog.templates.size
    patterns := r.catalog.patterns.size
    failedFiles := r.failedFiles }

end Registry

end StatementProfiles
