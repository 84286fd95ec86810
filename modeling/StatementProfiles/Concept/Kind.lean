/-!
# Kinds of concepts

A concept of a profile has one kind. Its written name and the name used in messages differ for statement templates
only.
-/

namespace StatementProfiles

/-- The kind of a concept. -/
inductive ConceptKind where
  | verb
  | activityType
  | attachmentUsageType
  | activity
  | contextExtension
  | resultExtension
  | activityExtension
  | stateResource
  | agentProfileResource
  | activityProfileResource
  | template
  | pattern
deriving DecidableEq, Repr, Inhabited

namespace ConceptKind

/-- The kinds in the order of their declaration. -/
def all : List ConceptKind :=
  [.verb, .activityType, .attachmentUsageType, .activity, .contextExtension, .resultExtension, .activityExtension,
    .stateResource, .agentProfileResource, .activityProfileResource, .template, .pattern]

/-- The name in messages. -/
def title : ConceptKind → String
  | .verb => "Verb"
  | .activityType => "ActivityType"
  | .attachmentUsageType => "AttachmentUsageType"
  | .activity => "Activity"
  | .contextExtension => "ContextExtension"
  | .resultExtension => "ResultExtension"
  | .activityExtension => "ActivityExtension"
  | .stateResource => "StateResource"
  | .agentProfileResource => "AgentProfileResource"
  | .activityProfileResource => "ActivityProfileResource"
  | .template => "Template"
  | .pattern => "Pattern"

/-- The name in documents. -/
def name : ConceptKind → String
  | .template => "StatementTemplate"
  | kind => kind.title

/-- The kind with a name in documents. -/
def ofName? (s : String) : Option ConceptKind := all.find? fun kind => kind.name == s

/-- Whether concepts of the kind are keys of extensions. -/
def isExtension : ConceptKind → Bool
  | .contextExtension | .resultExtension | .activityExtension => true
  | _ => false

/-- Every kind is found by its name. -/
theorem ofName?_name (kind : ConceptKind) : ofName? kind.name = some kind := by cases kind <;> decide

end ConceptKind

end StatementProfiles
