import StatementProfiles.Profile.Basic
import StatementProfiles.Registry.Table
import StatementProfiles.Template.Basic

/-!
# Catalogs

A `Catalog` holds the statement templates and the patterns of several profiles, each in a table by IRI.
-/

namespace StatementProfiles

/-- A pattern with the profile that declares it. -/
structure PatternEntry where
  definition : PatternDefinition
  profileId : String
  /-- The current version of that profile. -/
  profileVersion : Option String
deriving DecidableEq, Repr, Inhabited

/-- Templates and patterns by IRI. -/
structure Catalog where
  templates : Table Template
  patterns : Table PatternEntry

namespace Catalog

/-- The catalog without entries. -/
def empty : Catalog := ⟨.empty, .empty⟩

/-- The template with an IRI. -/
def template? (c : Catalog) (id : String) : Option Template := c.templates.find? id

/-- The pattern with an IRI. -/
def pattern? (c : Catalog) (id : String) : Option PatternEntry := c.patterns.find? id

/-- The catalog with more entries behind its own, each under its own IRI. -/
def extend (c : Catalog) (templates : List Template) (patterns : List PatternEntry) : Catalog :=
  ⟨c.templates.extend (templates.map fun t => (t.id, t)),
    c.patterns.extend (patterns.map fun e => (e.definition.id, e))⟩

/-- The entries of the patterns of a profile. -/
def entriesOf (p : Profile) : List PatternEntry :=
  p.patterns.map fun d => ⟨d, p.id, p.currentVersion.map ProfileVersion.id⟩

end Catalog

end StatementProfiles
