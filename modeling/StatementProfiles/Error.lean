import StatementProfiles.Concept.Kind
import StatementProfiles.Document.Kind

/-!
# Errors

An `Error` says why something was refused; `Error.message` is its wording. Faults of structure, of configuration and of
paths may be told in a context (`Error.within`): the context comes in front of the wording. Every other error keeps its
sort in any context, except that a text that cannot be read becomes a fault of structure and a file that cannot be read
one of configuration.
-/

namespace StatementProfiles

/-- The format of a text. -/
inductive Format where
  | json
  | yaml
deriving DecidableEq, Repr, Inhabited

/-- The wording for a text that is not of its format. -/
def malformedText : String := "<parse error>"

/-- The wording for a path that is not of the path language. -/
def malformedPath : String := "<jsonpath>"

/-- The wording for a file that the system does not give. -/
def missingFile : String := "No such file or directory (os error 2)"

/-- What a profile lists under ids. -/
inductive Entry where
  | version
  | concept
  | template
  | pattern
deriving DecidableEq, Repr, Inhabited

/-- The word for an entry. -/
def Entry.word : Entry → String
  | .version => "version"
  | .concept => "concept"
  | .template => "template"
  | .pattern => "pattern"

/-- What is wrong with the structure of profiles. -/
inductive StructuralFault where
  /-- The id of a profile is not an absolute IRI. -/
  | relativeProfile (id : String)
  | noVersions (profile : String)
  /-- The id of an entry is not an absolute IRI. -/
  | relativeId (entry : Entry) (id profile : String)
  | duplicateId (id profile : String)
  | noOperator (pattern : String)
  | severalOperators (pattern : String) (count : Nat)
  | noChildren (pattern : String)
  | profileTaken (profile : String)
  | idTaken (id profile : String)
  /-- A pattern refers to itself along these patterns. -/
  | cycle (patterns : List String)
  | unknownPattern (id : String)
  /-- A pattern refers to a template of another profile. -/
  | foreignTemplate (pattern template : String)
  | unknownReference (pattern id : String)
  /-- A text is not of its format. -/
  | malformed
  | stated (text : String)
  | within (context : String) (fault : StructuralFault)
deriving DecidableEq, Repr, Inhabited

/-- The wording of a fault of structure. -/
def StructuralFault.message : StructuralFault → String
  | .relativeProfile id => s!"profile id '{id}' is not an absolute IRI"
  | .noVersions profile => s!"profile '{profile}' has no versions"
  | .relativeId entry id profile => s!"{entry.word} id '{id}' in profile '{profile}' is not an absolute IRI"
  | .duplicateId id profile => s!"duplicate id '{id}' in profile '{profile}'"
  | .noOperator pattern => s!"pattern '{pattern}' has no operator"
  | .severalOperators pattern count => s!"pattern '{pattern}' has {count} operators, expected exactly one"
  | .noChildren pattern => s!"pattern '{pattern}' has an empty child list"
  | .profileTaken profile => s!"profile '{profile}' is already registered"
  | .idTaken id profile => s!"id '{id}' of profile '{profile}' is already registered"
  | .cycle patterns => "pattern reference cycle: " ++ " -> ".intercalate patterns
  | .unknownPattern id => s!"unknown pattern '{id}'"
  | .foreignTemplate pattern template => s!"pattern '{pattern}' refers to template '{template}' from another profile"
  | .unknownReference pattern id => s!"pattern '{pattern}' refers to unknown template or pattern '{id}'"
  | .malformed => malformedText
  | .stated text => text
  | .within context fault => context ++ ": " ++ fault.message

/-- What is wrong with a path selector. -/
inductive PathFault where
  | noExpressions (source : String)
  | noRoot (alternative : String)
  | malformed (alternative : String)
  | stated (text : String)
  | within (context : String) (fault : PathFault)
deriving DecidableEq, Repr, Inhabited

/-- The wording of a fault of a path. -/
def PathFault.message : PathFault → String
  | .noExpressions source => s!"'{source}' has no path expressions"
  | .noRoot alternative => s!"'{alternative}' must start with '$'"
  | .malformed alternative => s!"'{alternative}': {malformedPath}"
  | .stated text => text
  | .within context fault => context ++ ": " ++ fault.message

/-- What is wrong with a configuration. -/
inductive ConfigFault where
  | noLanguage
  | emptyDirectory
  | directoryNotFound (directory : String)
  | stated (text : String)
  | within (context : String) (fault : ConfigFault)
deriving DecidableEq, Repr, Inhabited

/-- The wording of a fault of a configuration. -/
def ConfigFault.message : ConfigFault → String
  | .noLanguage => "language cannot be empty"
  | .emptyDirectory => "empty profile directory entry \"\""
  | .directoryNotFound directory => s!"profile directory not found: {directory}"
  | .stated text => text
  | .within context fault => context ++ ": " ++ fault.message

/-- Why something was refused. -/
inductive Error where
  /-- A name or IRI stands for no concept of the kind, or for several. -/
  | unresolved (identifier : String) (kind : ConceptKind)
  /-- A template may not follow what a pattern occurrence has recorded. -/
  | outOfSequence (pattern template : String) (recorded : List String)
  /-- A statement does not fit a template. -/
  | violations (template : String) (texts : List String)
  | structural (fault : StructuralFault)
  /-- A field is set on a document of a kind that does not have it. -/
  | disallowedField (kind : DocumentKind) (field : String)
  | missingField (kind : DocumentKind) (field : String)
  | invalidPath (fault : PathFault)
  | configuration (fault : ConfigFault)
  /-- A text is not of its format, or not what was expected. -/
  | malformed (format : Format)
  /-- A file cannot be read. -/
  | unreadableFile (text : String)
deriving DecidableEq, Repr, Inhabited

namespace Error

/-- The wording of an error. -/
def message : Error → String
  | .unresolved identifier kind => s!"Lookup failure: no unique {kind.title} found for '{identifier}'"
  | .outOfSequence pattern template recorded =>
    "Sequence violation: template '" ++ template ++ "' cannot follow [" ++ ", ".intercalate recorded
      ++ "] in pattern '" ++ pattern ++ "'"
  | .violations template texts => "Template violation in '" ++ template ++ "': " ++ "; ".intercalate texts
  | .structural fault => "Structural error: " ++ fault.message
  | .disallowedField kind field => s!"Field '{field}' is not allowed on {kind.name}"
  | .missingField kind field => s!"{kind.name} is missing required field '{field}'"
  | .invalidPath fault => "Invalid path selector: " ++ fault.message
  | .configuration fault => "Invalid configuration: " ++ fault.message
  | .malformed .json => "JSON parse error: " ++ malformedText
  | .malformed .yaml => "YAML parse error: " ++ malformedText
  | .unreadableFile text => "IO error: " ++ text

/-- Whether the error refuses to extend a sequence. -/
def isSequenceViolation : Error → Bool
  | .outOfSequence .. => true
  | _ => false

/-- Whether the error is about a statement that does not fit a template. -/
def isTemplateViolation : Error → Bool
  | .violations .. => true
  | _ => false

/-- The error told in a context. -/
def within (context : String) : Error → Error
  | .structural fault => .structural (.within context fault)
  | .configuration fault => .configuration (.within context fault)
  | .invalidPath fault => .invalidPath (.within context fault)
  | .malformed _ => .structural (.within context .malformed)
  | .unreadableFile text => .configuration (.within context (.stated text))
  | e => e

end Error

/-- A result told in a context when it is an error. -/
def inContext {α : Type} (context : String) (r : Except Error α) : Except Error α :=
  match r with
  | .ok a => .ok a
  | .error e => .error (e.within context)

end StatementProfiles
