import StatementProfiles.Concept.Lookup
import StatementProfiles.Template.Rule

/-!
# Statement templates

A `Template` says what statements of one sort look like: their verb, the types of their object, of the activities in
their context and of their attachments, whether they refer to other statements, and rules. A definition may write the
determining properties as names; `Template.resolveNames` puts IRIs in their place.
-/

namespace StatementProfiles

/-- How an activity in the context of a statement relates to it. -/
inductive ContextRelation where
  | parent
  | grouping
  | category
  | other
deriving DecidableEq, Repr, Inhabited

namespace ContextRelation

/-- The relations in the order of their checks. -/
def all : List ContextRelation := [.parent, .grouping, .category, .other]

/-- The key of a relation in documents. -/
def key : ContextRelation → String
  | .parent => "parent"
  | .grouping => "grouping"
  | .category => "category"
  | .other => "other"

/-- The relation with a key. -/
def ofKey? (s : String) : Option ContextRelation := all.find? fun r => r.key == s

end ContextRelation

/-- How violations are reported. -/
inductive ValidationMode where
  /-- The first violation only. -/
  | failFast
  /-- All violations. -/
  | collect
deriving DecidableEq, Repr, Inhabited

namespace ValidationMode

/-- The name of a mode. -/
def name : ValidationMode → String
  | .failFast => "fail_fast"
  | .collect => "collect"

/-- The mode with a name. -/
def ofName? (s : String) : Option ValidationMode := [failFast, collect].find? fun m => m.name == s

end ValidationMode

/-- A statement template as a profile declares it. -/
structure TemplateDefinition where
  id : String
  inScheme : Option String
  prefLabel : LanguageMap
  definition : LanguageMap
  verb : Option String
  objectActivityType : Option String
  contextParentActivityType : List String
  contextGroupingActivityType : List String
  contextCategoryActivityType : List String
  contextOtherActivityType : List String
  attachmentUsageType : List String
  objectStatementRefTemplate : List String
  contextStatementRefTemplate : List String
  rules : List Rule
deriving DecidableEq, Repr, Inhabited

namespace TemplateDefinition

/-- The names of the fields in their order. -/
def fieldNames : List String :=
  ["id", "inScheme", "prefLabel", "definition", "verb", "objectActivityType", "contextParentActivityType",
    "contextGroupingActivityType", "contextCategoryActivityType", "contextOtherActivityType", "attachmentUsageType",
    "objectStatementRefTemplate", "contextStatementRefTemplate", "rules"]

/-- The parts of a text that matter for a definition. -/
def outline : Yaml.Outline := .ofFields fieldNames [("rules", .list Rule.outline)]

/-- The definition as written. -/
def ofDatum? (d : Datum) : Option TemplateDefinition :=
  (Datum.Slots.of? fieldNames d).bind fun slots =>
  let texts (name : String) : Option (List String) := slots.withDefault? name [] (Datum.list? Datum.text?)
  (slots.required? "id" Datum.text?).bind fun id =>
  (slots.optional? "inScheme" Datum.text?).bind fun inScheme =>
  (slots.withDefault? "prefLabel" [] Datum.texts?).bind fun prefLabel =>
  (slots.withDefault? "definition" [] Datum.texts?).bind fun definition =>
  (slots.optional? "verb" Datum.text?).bind fun verb =>
  (slots.optional? "objectActivityType" Datum.text?).bind fun objectActivityType =>
  (texts "contextParentActivityType").bind fun parent =>
  (texts "contextGroupingActivityType").bind fun grouping =>
  (texts "contextCategoryActivityType").bind fun category =>
  (texts "contextOtherActivityType").bind fun other =>
  (texts "attachmentUsageType").bind fun usage =>
  (texts "objectStatementRefTemplate").bind fun objectRef =>
  (texts "contextStatementRefTemplate").bind fun contextRef =>
  (slots.withDefault? "rules" [] (Datum.list? Rule.ofDatum?)).map fun rules =>
    ⟨id, inScheme, prefLabel, definition, verb, objectActivityType, parent, grouping, category, other, usage,
      objectRef, contextRef, rules⟩

/-- A list of texts under a name, unless it is empty. -/
def listed (name : String) (texts : List String) : List (String × Json) :=
  if texts.isEmpty then [] else [(name, .strings texts)]

/-- The definition as an object; what is missing or an empty list of texts is left out. -/
def toJson (t : TemplateDefinition) : Json :=
  .ofPairs ([("id", Json.string t.id)]
    ++ (t.inScheme.toList.map fun s => ("inScheme", .string s))
    ++ [("prefLabel", .ofTexts t.prefLabel), ("definition", .ofTexts t.definition)]
    ++ (t.verb.toList.map fun s => ("verb", .string s))
    ++ (t.objectActivityType.toList.map fun s => ("objectActivityType", .string s))
    ++ listed "contextParentActivityType" t.contextParentActivityType
    ++ listed "contextGroupingActivityType" t.contextGroupingActivityType
    ++ listed "contextCategoryActivityType" t.contextCategoryActivityType
    ++ listed "contextOtherActivityType" t.contextOtherActivityType
    ++ listed "attachmentUsageType" t.attachmentUsageType
    ++ listed "objectStatementRefTemplate" t.objectStatementRefTemplate
    ++ listed "contextStatementRefTemplate" t.contextStatementRefTemplate
    ++ [("rules", .array (t.rules.map Rule.toJson))])

end TemplateDefinition

/-- The activity types that the context must have, by relation. -/
structure ContextTypes where
  parent : List String
  grouping : List String
  category : List String
  other : List String
deriving DecidableEq, Repr, Inhabited

/-- The types that a relation must have. -/
def ContextTypes.required (t : ContextTypes) : ContextRelation → List String
  | .parent => t.parent
  | .grouping => t.grouping
  | .category => t.category
  | .other => t.other

/-- A statement template with its paths read. -/
structure Template where
  id : String
  prefLabel : LanguageMap
  /-- The profile that declares the template. -/
  profileId : Option String
  /-- The current version of that profile. -/
  profileVersion : Option String
  verb : Option String
  objectActivityType : Option String
  contextTypes : ContextTypes
  attachmentUsageTypes : List String
  /-- Whether the object must refer to a statement. -/
  objectStatementRef : Bool
  /-- Whether the context must refer to a statement. -/
  contextStatementRef : Bool
  rules : List TemplateRule

namespace Template

/-- The context in which faults of a rule are told. -/
def ruleContext (index : Nat) (template : String) : String := s!"rule {index} of template '{template}'"

/-- The rules with their paths read, counted from `index`. -/
def compileRules (template : String) (index : Nat) : List Rule → Except Error (List TemplateRule)
  | [] => .ok []
  | r :: rest =>
    match inContext (ruleContext index template) (TemplateRule.compile r) with
    | .error e => .error e
    | .ok compiled => match compileRules template (index + 1) rest with
      | .error e => .error e
      | .ok more => .ok (compiled :: more)

/-- The template of a definition. A list of templates to refer to makes the reference itself required. -/
def ofDefinition (d : TemplateDefinition) (profileId : String) (profileVersion : Option String) :
    Except Error Template :=
  (compileRules d.id 0 d.rules).map fun rules =>
    { id := d.id
      prefLabel := d.prefLabel
      profileId := some profileId
      profileVersion := profileVersion
      verb := d.verb
      objectActivityType := d.objectActivityType
      contextTypes := ⟨d.contextParentActivityType, d.contextGroupingActivityType, d.contextCategoryActivityType,
        d.contextOtherActivityType⟩
      attachmentUsageTypes := d.attachmentUsageType
      objectStatementRef := !d.objectStatementRefTemplate.isEmpty
      contextStatementRef := !d.contextStatementRefTemplate.isEmpty
      rules := rules }

/-- The label in a language, or any label, or the IRI. -/
def label (t : Template) (language : String) : String := (t.prefLabel.text? language).getD t.id

/-! ## Names of determining properties -/

/-- The IRI that an identifier stands for. -/
def resolveName (r : Resolver) (kind : ConceptKind) (name : String) : Except Error String :=
  (r.resolve name kind).map Concept.id

/-- The IRI of a property that may be missing. -/
def resolveName? (r : Resolver) (kind : ConceptKind) : Option String → Except Error (Option String)
  | none => .ok none
  | some name => (resolveName r kind name).map some

/-- The IRIs of several names, or the first failure. -/
def resolveAll (r : Resolver) (kind : ConceptKind) : List String → Except Error (List String)
  | [] => .ok []
  | name :: rest =>
    match resolveName r kind name with
    | .error e => .error e
    | .ok id => (resolveAll r kind rest).map fun ids => id :: ids

/-- The template with an IRI for every name in its determining properties, or the first failure. -/
def resolveNames (t : Template) (r : Resolver) : Except Error Template := do
  let verb ← resolveName? r .verb t.verb
  let objectActivityType ← resolveName? r .activityType t.objectActivityType
  let parent ← resolveAll r .activityType t.contextTypes.parent
  let grouping ← resolveAll r .activityType t.contextTypes.grouping
  let category ← resolveAll r .activityType t.contextTypes.category
  let other ← resolveAll r .activityType t.contextTypes.other
  let usage ← resolveAll r .attachmentUsageType t.attachmentUsageTypes
  return { t with
    verb := verb
    objectActivityType := objectActivityType
    contextTypes := ⟨parent, grouping, category, other⟩
    attachmentUsageTypes := usage }

end Template

end StatementProfiles
