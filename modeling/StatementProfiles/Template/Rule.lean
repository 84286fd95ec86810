import StatementProfiles.Concept.Basic
import StatementProfiles.Template.Selector
import StatementProfiles.Yaml.Outline

/-!
# Rules

A `Rule` asks for something of the values at a location of a statement, or of what a selector finds at each of them:
that some are there, or none, or that they are among given values or not. A `TemplateRule` is a rule with its paths
read.
-/

namespace StatementProfiles

/-- Whether values have to be there. -/
inductive Presence where
  /-- There must be a value. -/
  | included
  /-- There must be none. -/
  | excluded
  /-- The other conditions count only when there is a value. -/
  | recommended
deriving DecidableEq, Repr, Inhabited

namespace Presence

/-- The name of a presence. -/
def name : Presence → String
  | .included => "included"
  | .excluded => "excluded"
  | .recommended => "recommended"

/-- The presence with a name. -/
def ofName? (s : String) : Option Presence := [included, excluded, recommended].find? fun p => p.name == s

end Presence

/-- A rule as declared. -/
structure Rule where
  /-- Paths into the statement. -/
  location : String
  /-- Paths into each located value. -/
  selector : Option String
  presence : Option Presence
  /-- Some value must be among these. -/
  any : Option (List Json)
  /-- Every value must be among these. -/
  all : Option (List Json)
  /-- No value may be among these. -/
  none : Option (List Json)
  /-- What the author says about it, by language tag. -/
  scopeNote : Option LanguageMap
deriving DecidableEq, Repr, Inhabited

namespace Rule

/-- The names of the fields in their order. -/
def fieldNames : List String := ["location", "selector", "presence", "any", "all", "none", "scopeNote"]

/-- The parts of a text that matter for a rule. -/
def outline : Yaml.Outline := .ofFields fieldNames []

/-- The rule as written. -/
def ofDatum? (d : Datum) : Option Rule :=
  (Datum.Slots.of? fieldNames d).bind fun slots =>
  (slots.required? "location" Datum.text?).bind fun location =>
  (slots.optional? "selector" Datum.text?).bind fun selector =>
  (slots.optional? "presence" fun p => p.choice?.bind Presence.ofName?).bind fun presence =>
  (slots.optional? "any" (Datum.list? Datum.json?)).bind fun any =>
  (slots.optional? "all" (Datum.list? Datum.json?)).bind fun all =>
  (slots.optional? "none" (Datum.list? Datum.json?)).bind fun forbidden =>
  (slots.optional? "scopeNote" Datum.texts?).map fun scopeNote =>
    ⟨location, selector, presence, any, all, forbidden, scopeNote⟩

/-- The rule as an object; what it does not ask for is left out. -/
def toJson (r : Rule) : Json :=
  .ofPairs ([("location", Json.string r.location)]
    ++ (r.selector.toList.map fun s => ("selector", .string s))
    ++ (r.presence.toList.map fun p => ("presence", .string p.name))
    ++ (r.any.toList.map fun vs => ("any", .array vs))
    ++ (r.all.toList.map fun vs => ("all", .array vs))
    ++ (r.none.toList.map fun vs => ("none", .array vs))
    ++ (r.scopeNote.toList.map fun note => ("scopeNote", .ofTexts note)))

end Rule

/-- A rule with its paths read. -/
structure TemplateRule where
  rule : Rule
  location : PathSelector
  selector : Option PathSelector

namespace TemplateRule

/-- The rule with its paths read, or the first fault in them. -/
def compile (rule : Rule) : Except Error TemplateRule :=
  match PathSelector.parse rule.location with
  | .error e => .error e
  | .ok location => match rule.selector with
    | none => .ok ⟨rule, location, none⟩
    | some text => (PathSelector.parse text).map fun selector => ⟨rule, location, some selector⟩

/-- What the rule looks at, in words. -/
def target (r : TemplateRule) : String :=
  match r.selector with
  | some s => r.location.source ++ " (selector " ++ s.source ++ ")"
  | none => r.location.source

/-- The values that the rule looks at. -/
def values (r : TemplateRule) (statement : Json) : List Json :=
  match r.selector with
  | some s => (r.location.select statement).flatMap s.select
  | none => r.location.select statement

/-- Whether the selector finds nothing at some located value. -/
def hasUnmatched (r : TemplateRule) (statement : Json) : Bool :=
  match r.selector with
  | some s => (r.location.select statement).any fun v => (s.select v).isEmpty
  | none => false

end TemplateRule

end StatementProfiles
