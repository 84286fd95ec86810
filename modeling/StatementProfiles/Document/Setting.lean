import StatementProfiles.Document.History
import StatementProfiles.Document.Kind
import StatementProfiles.Document.Options
import StatementProfiles.Template.Validation
import StatementProfiles.Time.Instant
import StatementProfiles.Uuid

/-!
# Builders and their settings

A `Builder` is a document of one kind in the making. A `Setting` is one thing that it can be told: it belongs to a field
that documents of the kind must have (`Setting.field`), may need a document of a certain kind as its argument
(`Setting.argument?`), may need the concept that a name stands for (`Setting.concept?`), and then comes down to edits of
the document (`Setting.edits`). `Builder.apply` does the three in this order and gives a new builder.
-/

namespace StatementProfiles

/-- A number that a score takes: one that has a notation, or an infinity or no number, which have none. -/
inductive Score where
  | finite (value : Binary64)
  | unbounded
deriving DecidableEq, Repr, Inhabited

/-- The score as a value; without a notation it is null. -/
def Score.toJson : Score → Json
  | .finite x => .number (.real x)
  | .unbounded => .null

/-- A document in the making. -/
structure Builder where
  kind : DocumentKind
  document : Json
  /-- What names stand for. -/
  resolver : Resolver
  /-- The template that the finished document has to fit. -/
  template : Option Template
  options : BuildOptions

/-- What a builder can be told. -/
inductive Setting where
  | id (value : String)
  | name (text : String)
  | description (text : String)
  | actor (agent : Builder)
  | verb (name : String)
  | object (thing : Builder)
  /-- Another statement as the object. -/
  | objectStatement (id : Uuid)
  | objectActivityType (name : String)
  | success (value : Bool)
  | completion (value : Bool)
  | response (text : String)
  | duration (text : String)
  | scoreScaled (value : Score)
  | scoreRaw (value : Score) (least greatest : Option Score)
  | resultExtension (key : String) (value : Json)
  | registration (id : Uuid)
  | contextActivity (relation : ContextRelation) (activity : Builder)
  | instructor (agent : Builder)
  | team (group : Builder)
  | platform (text : String)
  | language (tag : String)
  /-- Another statement as the context. -/
  | contextStatement (id : Uuid)
  | contextExtension (key : String) (value : Json)
  | timestamp (time : Instant)
  | attachment (entry : Builder)
  | mbox (address : String)
  | account (homePage name : String)
  | member (agent : Builder)
  | activityType (name : String)
  | moreInfo (url : String)
  | activityExtension (key : String) (value : Json)
  | usageType (name : String)
  | contentType (text : String)
  | length (octets : Nat)
  | sha2 (text : String)
  | fileUrl (url : String)

namespace Setting

/-- The field that documents of the builder's kind must have. -/
def field : Setting → Field
  | .id _ => .id
  | .name _ => .name
  | .description _ => .description
  | .actor _ => .actor
  | .verb _ => .verb
  | .object _ | .objectStatement _ | .objectActivityType _ => .object
  | .success _ | .completion _ | .response _ | .duration _ | .scoreScaled _ | .scoreRaw .. | .resultExtension .. =>
    .result
  | .registration _ | .contextActivity .. | .instructor _ | .team _ | .platform _ | .language _ | .contextStatement _
  | .contextExtension .. => .context
  | .timestamp _ => .timestamp
  | .attachment _ => .attachments
  | .mbox _ => .mbox
  | .account .. => .account
  | .member _ => .member
  | .activityType _ => .type
  | .moreInfo _ => .moreInfo
  | .activityExtension .. => .extensions
  | .usageType _ => .usageType
  | .contentType _ => .contentType
  | .length _ => .length
  | .sha2 _ => .sha2
  | .fileUrl _ => .fileUrl

/-- Whether a document of a kind may be the object of one of another kind; statements inside statements go no deeper
than one level. -/
def isObjectOf (outer : DocumentKind) : DocumentKind → Bool
  | .activity | .agent | .group => true
  | .subStatement => outer == .statement
  | .statement | .attachment => false

/-- The document that the setting takes, the word for its place, and whether its kind fits there. -/
def argument? (outer : DocumentKind) : Setting → Option (Builder × String × Bool)
  | .actor b => some (b, Field.actor.title, b.kind.isActor)
  | .object b => some (b, Field.object.title, isObjectOf outer b.kind)
  | .contextActivity _ b => some (b, Field.context.title, b.kind == .activity)
  | .instructor b => some (b, "instructor", b.kind.isActor)
  | .team b => some (b, "team", b.kind == .group)
  | .attachment b => some (b, Field.attachments.title, b.kind == .attachment)
  | .member b => some (b, Field.member.title, b.kind == .agent)
  | _ => none

/-- The name that the setting takes, and the kind of concept that it has to stand for. -/
def concept? : Setting → Option (String × ConceptKind)
  | .verb word => some (word, .verb)
  | .objectActivityType word => some (word, .activityType)
  | .resultExtension key _ => some (key, .resultExtension)
  | .contextExtension key _ => some (key, .contextExtension)
  | .activityType word => some (word, .activityType)
  | .activityExtension key _ => some (key, .activityExtension)
  | .usageType word => some (word, .attachmentUsageType)
  | _ => none

end Setting

/-! ## Values that settings write -/

/-- A reference to a statement. -/
def statementRef (id : Uuid) : Json :=
  .ofPairs [("objectType", .string "StatementRef"), ("id", .string id.render)]

/-- A verb as an object: its IRI, and its labels if there are any. -/
def verbJson (c : Concept) : Json :=
  .ofPairs (("id", .string c.id) :: c.display?.toList.map fun d => ("display", d))

/-- An address as a mailbox. -/
def mailbox (address : String) : String :=
  if address.startsWith "mailto:" then address else "mailto:" ++ address

/-- The object with a new one put in its place. Of an activity that is there, what the new activity does not say
stays. -/
def mergedObject (present : Option Json) (thing : Builder) : Json :=
  match present with
  | some j => if thing.kind == .activity && j.isObject then j.merge thing.document else thing.document
  | none => thing.document

namespace Builder

/-- A text in the builder's language. -/
def inLanguage (b : Builder) (text : String) : Json := .ofPairs [(b.options.language, .string text)]

/-- Where the name of a document is. -/
def namePath (kind : DocumentKind) : Path :=
  match kind with
  | .activity => ["definition", "name"]
  | .attachment => ["display"]
  | _ => ["name"]

/-- The name of a document: plain text of an agent or a group, and text in a language of anything else. -/
def nameJson (b : Builder) (text : String) : Json := if b.kind.isActor then .string text else b.inLanguage text

/-- Where the description of a document is. -/
def descriptionPath (kind : DocumentKind) : Path :=
  if kind == .activity then ["definition", "description"] else ["description"]

end Builder

namespace Setting

/-- The edit of a bound of a score, if there is one. -/
def bound (key : String) (score : Option Score) : List Edit :=
  score.toList.map fun x => .set ["result", "score", key] x.toJson

/-- The edits that a setting comes down to, given the concept that its name stands for. -/
def edits (b : Builder) (c : Concept) : Setting → List Edit
  | .id value => [.set ["id"] (.string value)]
  | .name text => [.set (Builder.namePath b.kind) (b.nameJson text)]
  | .description text => [.set (Builder.descriptionPath b.kind) (b.inLanguage text)]
  | .actor agent => [.set ["actor"] agent.document]
  | .verb _ => [.set ["verb"] (verbJson c)]
  | .object thing => [.set ["object"] (mergedObject (b.document.get? ["object"]) thing)]
  | .objectStatement statement => [.set ["object"] (statementRef statement)]
  | .objectActivityType _ =>
    [.set ["object", "objectType"] (.string "Activity"), .set ["object", "definition", "type"] (.string c.id)]
  | .success value => [.set ["result", "success"] (.bool value)]
  | .completion value => [.set ["result", "completion"] (.bool value)]
  | .response text => [.set ["result", "response"] (.string text)]
  | .duration text => [.set ["result", "duration"] (.string text)]
  | .scoreScaled value => [.set ["result", "score", "scaled"] value.toJson]
  | .scoreRaw value least greatest =>
    .set ["result", "score", "raw"] value.toJson :: (bound "min" least ++ bound "max" greatest)
  | .resultExtension _ value => [.set ["result", "extensions", c.id] value]
  | .registration run => [.set ["context", "registration"] (.string run.render)]
  | .contextActivity relation activity => [.push ["context", "contextActivities", relation.key] activity.document]
  | .instructor agent => [.set ["context", "instructor"] agent.document]
  | .team group => [.set ["context", "team"] group.document]
  | .platform text => [.set ["context", "platform"] (.string text)]
  | .language tag => [.set ["context", "language"] (.string tag)]
  | .contextStatement statement => [.set ["context", "statement"] (statementRef statement)]
  | .contextExtension _ value => [.set ["context", "extensions", c.id] value]
  | .timestamp time => [.set ["timestamp"] (.string (time.render .millis))]
  | .attachment entry => [.push ["attachments"] entry.document]
  | .mbox address => [.set ["mbox"] (.string (mailbox address))]
  | .account homePage user => [.set ["account"] (.ofPairs [("homePage", .string homePage), ("name", .string user)])]
  | .member agent => [.push ["member"] agent.document]
  | .activityType _ => [.set ["definition", "type"] (.string c.id)]
  | .moreInfo url => [.set ["definition", "moreInfo"] (.string url)]
  | .activityExtension _ value => [.set ["definition", "extensions", c.id] value]
  | .usageType _ => [.set ["usageType"] (.string c.id)]
  | .contentType text => [.set ["contentType"] (.string text)]
  | .length octets => [.set ["length"] (.int octets)]
  | .sha2 text => [.set ["sha2"] (.string text)]
  | .fileUrl url => [.set ["fileUrl"] (.string url)]

/-- The concept that the setting's name stands for; a setting without a name needs none. -/
def resolve (r : Resolver) (s : Setting) : Except Error Concept :=
  match s.concept? with
  | some (word, kind) => r.resolve word kind
  | none => .ok default

end Setting

end StatementProfiles
