/-!
# Kinds of documents

What a statement is made of: the statement itself, a statement as an object, agents, groups, activities and
attachments. The kind decides which fields a document may have; here are the table of fields and the lists of those
that must be there.
-/

namespace StatementProfiles

/-- The kind of a document. -/
inductive DocumentKind where
  | statement
  | subStatement
  | agent
  | group
  | activity
  | attachment
deriving DecidableEq, Repr, Inhabited

namespace DocumentKind

/-- The name of a kind. -/
def name : DocumentKind → String
  | .statement => "Statement"
  | .subStatement => "SubStatement"
  | .agent => "Agent"
  | .group => "Group"
  | .activity => "Activity"
  | .attachment => "Attachment"

/-- The kinds in the order of their declaration. -/
def all : List DocumentKind := [.statement, .subStatement, .agent, .group, .activity, .attachment]

/-- The kind with a name. -/
def ofName? (s : String) : Option DocumentKind := all.find? fun kind => kind.name == s

/-- The `objectType` that documents of the kind carry. -/
def objectType? : DocumentKind → Option String
  | .statement | .attachment => none
  | kind => some kind.name

/-- Whether documents of the kind may act. -/
def isActor : DocumentKind → Bool
  | .agent | .group => true
  | _ => false

/-- The fields that a finished document of the kind has. -/
def requiredFields : DocumentKind → List String
  | .statement | .subStatement => ["actor", "verb", "object"]
  | .activity => ["id"]
  | .attachment => ["usageType", "display", "contentType", "length", "sha2"]
  | .agent | .group => []

end DocumentKind

/-- A field that a setter writes. -/
inductive Field where
  | id
  | actor
  | verb
  | object
  | result
  | context
  | timestamp
  | attachments
  | name
  | mbox
  | account
  | member
  | description
  | type
  | moreInfo
  | extensions
  | usageType
  | contentType
  | length
  | sha2
  | fileUrl
deriving DecidableEq, Repr, Inhabited

namespace Field

/-- The name of a field in messages. -/
def title : Field → String
  | .id => "id"
  | .actor => "actor"
  | .verb => "verb"
  | .object => "object"
  | .result => "result"
  | .context => "context"
  | .timestamp => "timestamp"
  | .attachments => "attachments"
  | .name => "name"
  | .mbox => "mbox"
  | .account => "account"
  | .member => "member"
  | .description => "description"
  | .type => "type"
  | .moreInfo => "moreInfo"
  | .extensions => "extensions"
  | .usageType => "usageType"
  | .contentType => "contentType"
  | .length => "length"
  | .sha2 => "sha2"
  | .fileUrl => "fileUrl"

/-- Whether documents of a kind may have the field. -/
def isAllowedOn (kind : DocumentKind) : Field → Bool
  | .id => kind == .statement || kind == .activity
  | .actor | .verb | .object | .result | .context | .timestamp | .attachments =>
    kind == .statement || kind == .subStatement
  | .name => kind == .agent || kind == .group || kind == .activity || kind == .attachment
  | .mbox | .account => kind == .agent || kind == .group
  | .member => kind == .group
  | .description => kind == .activity || kind == .attachment
  | .type | .moreInfo | .extensions => kind == .activity
  | .usageType | .contentType | .length | .sha2 | .fileUrl => kind == .attachment

end Field

end StatementProfiles
