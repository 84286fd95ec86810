import StatementProfiles.Datum
import StatementProfiles.Time.Reader
import StatementProfiles.Yaml.Outline

/-!
# Versions

An entry of the history of a profile: the IRI of the version, the versions that it replaces, and when it was published.
-/

namespace StatementProfiles

/-- One version of a profile. -/
structure ProfileVersion where
  id : String
  /-- The versions that this one replaces. -/
  wasRevisionOf : List String
  /-- When the version was published. -/
  generatedAtTime : Option Instant
deriving DecidableEq, Repr, Inhabited

namespace ProfileVersion

/-- The names of the fields in their order. -/
def fieldNames : List String := ["id", "wasRevisionOf", "generatedAtTime"]

/-- The parts of a text that matter for a version. -/
def outline : Yaml.Outline := .ofFields fieldNames []

/-- An instant as written. -/
def instant? (d : Datum) : Option Instant := d.text?.bind Instant.ofString?

/-- The version as written. -/
def ofDatum? (d : Datum) : Option ProfileVersion :=
  (Datum.Slots.of? fieldNames d).bind fun slots =>
  (slots.required? "id" Datum.text?).bind fun id =>
  (slots.withDefault? "wasRevisionOf" [] (Datum.list? Datum.text?)).bind fun revised =>
  (slots.optional? "generatedAtTime" instant?).map fun time => ⟨id, revised, time⟩

/-- The version as an object; a missing time and an empty list are left out. -/
def toJson (v : ProfileVersion) : Json :=
  .ofPairs ([("id", Json.string v.id)]
    ++ (if v.wasRevisionOf.isEmpty then [] else [("wasRevisionOf", .strings v.wasRevisionOf)])
    ++ (v.generatedAtTime.toList.map fun t => ("generatedAtTime", .string (t.render .exact))))

end ProfileVersion

end StatementProfiles
