import StatementProfiles.Concept.Basic
import StatementProfiles.Error
import StatementProfiles.Profile.Reference
import StatementProfiles.Yaml.Outline

/-!
# Patterns of a profile

A pattern as a profile declares it. The properties for the operators are independent of each other;
`PatternDefinition.operator` is the one that is there, when it is the only one.
-/

namespace StatementProfiles

/-- A pattern as a profile declares it. -/
structure PatternDefinition where
  id : String
  /-- Whether the pattern is meant to be followed on its own. -/
  primary : Bool
  inScheme : Option String
  prefLabel : LanguageMap
  definition : LanguageMap
  sequence : Option (List Reference)
  alternates : Option (List Reference)
  optional : Option Reference
  oneOrMore : Option Reference
  zeroOrMore : Option Reference
deriving DecidableEq, Repr, Inhabited

/-- The operator of a pattern with the children that it names. -/
inductive PatternOperator where
  | sequence (children : List Reference)
  | alternates (children : List Reference)
  | optional (child : Reference)
  | oneOrMore (child : Reference)
  | zeroOrMore (child : Reference)
deriving DecidableEq, Repr, Inhabited

namespace PatternOperator

/-- The name of an operator. -/
def name : PatternOperator → String
  | .sequence _ => "sequence"
  | .alternates _ => "alternates"
  | .optional _ => "optional"
  | .oneOrMore _ => "oneOrMore"
  | .zeroOrMore _ => "zeroOrMore"

/-- The children in the order in which they are named. -/
def children : PatternOperator → List Reference
  | .sequence rs => rs
  | .alternates rs => rs
  | .optional r => [r]
  | .oneOrMore r => [r]
  | .zeroOrMore r => [r]

end PatternOperator

namespace PatternDefinition

/-- The names of the fields in their order. -/
def fieldNames : List String :=
  ["id", "primary", "inScheme", "prefLabel", "definition", "sequence", "alternates", "optional", "oneOrMore",
    "zeroOrMore"]

/-- The parts of a text that matter for a pattern. -/
def outline : Yaml.Outline := .ofFields fieldNames []

/-- The pattern as written. -/
def ofDatum? (d : Datum) : Option PatternDefinition :=
  (Datum.Slots.of? fieldNames d).bind fun slots =>
  (slots.required? "id" Datum.text?).bind fun id =>
  (slots.withDefault? "primary" false Datum.flag?).bind fun primary =>
  (slots.optional? "inScheme" Datum.text?).bind fun inScheme =>
  (slots.withDefault? "prefLabel" [] Datum.texts?).bind fun prefLabel =>
  (slots.withDefault? "definition" [] Datum.texts?).bind fun definition =>
  (slots.optional? "sequence" (Datum.list? Reference.ofDatum?)).bind fun sequence =>
  (slots.optional? "alternates" (Datum.list? Reference.ofDatum?)).bind fun alternates =>
  (slots.optional? "optional" Reference.ofDatum?).bind fun optional =>
  (slots.optional? "oneOrMore" Reference.ofDatum?).bind fun oneOrMore =>
  (slots.optional? "zeroOrMore" Reference.ofDatum?).map fun zeroOrMore =>
    ⟨id, primary, inScheme, prefLabel, definition, sequence, alternates, optional, oneOrMore, zeroOrMore⟩

/-- The references of an operator as an array. -/
def referencesJson (rs : List Reference) : Json := .array (rs.map Reference.toJson)

/-- The pattern as an object. -/
def toJson (p : PatternDefinition) : Json :=
  .ofPairs ([("id", Json.string p.id), ("primary", .bool p.primary)]
    ++ (p.inScheme.toList.map fun s => ("inScheme", .string s))
    ++ [("prefLabel", .ofTexts p.prefLabel), ("definition", .ofTexts p.definition)]
    ++ (p.sequence.toList.map fun rs => ("sequence", referencesJson rs))
    ++ (p.alternates.toList.map fun rs => ("alternates", referencesJson rs))
    ++ (p.optional.toList.map fun r => ("optional", r.toJson))
    ++ (p.oneOrMore.toList.map fun r => ("oneOrMore", r.toJson))
    ++ (p.zeroOrMore.toList.map fun r => ("zeroOrMore", r.toJson)))

/-- The operators that are there. -/
def operators (p : PatternDefinition) : List PatternOperator :=
  (p.sequence.toList.map PatternOperator.sequence) ++ (p.alternates.toList.map PatternOperator.alternates)
    ++ (p.optional.toList.map PatternOperator.optional) ++ (p.oneOrMore.toList.map PatternOperator.oneOrMore)
    ++ (p.zeroOrMore.toList.map PatternOperator.zeroOrMore)

/-- The operator, when there is exactly one. -/
def operator (p : PatternDefinition) : Except Error PatternOperator :=
  match p.operators with
  | [operator] => .ok operator
  | [] => .error (.structural (.noOperator p.id))
  | several => .error (.structural (.severalOperators p.id several.length))

/-- The IRIs that the operator names. -/
def references (p : PatternDefinition) : Except Error (List String) :=
  p.operator.map fun operator => operator.children.map Reference.id

end PatternDefinition

end StatementProfiles
