import StatementProfiles.Document.Setting

/-!
# Building documents

`Builder.start` begins a document of a kind, `Builder.apply` tells it one setting, and `Builder.build` finishes it: a
statement gets the id and the timestamp that it lacks, every required field has to be there, and the document has to fit
the template, if there is one. A builder never changes; every step gives a new one.
-/

namespace StatementProfiles

namespace Builder

/-- A builder of an empty document of a kind. -/
def start (kind : DocumentKind) : Builder :=
  { kind := kind
    document := match kind.objectType? with
      | some t => .ofPairs [("objectType", .string t)]
      | none => .empty
    resolver := .withAnyIri []
    template := none
    options := {} }

/-- The refusal of a field that documents of a kind do not have. -/
def checkField (kind : DocumentKind) (field : Field) : Except Error Unit :=
  if field.isAllowedOn kind then .ok () else .error (.disallowedField kind field.title)

/-- The refusal of an argument whose kind does not fit. -/
def checkArgument (kind : DocumentKind) (s : Setting) : Except Error Unit :=
  match s.argument? kind with
  | some (b, place, fits) => if fits then .ok () else .error (.disallowedField b.kind place)
  | none => .ok ()

/-- The builder with edits of its document. -/
def edit (b : Builder) (edits : List Edit) : Builder := { b with document := edits.foldl Edit.apply b.document }

/-- The builder that has been told a setting. -/
def apply (b : Builder) (s : Setting) : Except Error Builder :=
  match checkField b.kind s.field with
  | .error e => .error e
  | .ok () => match checkArgument b.kind s with
    | .error e => .error e
    | .ok () => (s.resolve b.resolver).map fun c => b.edit (s.edits b c)

/-- The builder that has been told several settings, one after another. -/
def applyAll (b : Builder) : List Setting → Except Error Builder
  | [] => .ok b
  | s :: rest => match b.apply s with
    | .error e => .error e
    | .ok b' => b'.applyAll rest

/-- A builder of an activity with an IRI. -/
def activity (id : String) : Except Error Builder := (start .activity).apply (.id id)

/-- What a statement gets that lacks an id or a timestamp. -/
structure Fresh where
  id : String
  timestamp : String
deriving DecidableEq, Repr, Inhabited

/-- The document with a text at a member that is missing. -/
def fill (isWanted : Bool) (name text : String) (document : Json) : Json :=
  if isWanted && !document.contains [name] then document.set [name] (.string text) else document

/-- The document with what is filled in at the end; only statements are filled in. -/
def completed (b : Builder) (fresh : Fresh) : Json :=
  if b.kind == .statement then
    fill b.options.generateTimestamps "timestamp" fresh.timestamp
      (fill b.options.generateIds "id" fresh.id b.document)
  else b.document

/-- The finished document. -/
def build (b : Builder) (fresh : Fresh) : Except Error Json :=
  let document := b.completed fresh
  match b.kind.requiredFields.find? fun name => !document.contains [name] with
  | some name => .error (.missingField b.kind name)
  | none => match b.template with
    | none => .ok document
    | some t => (t.validate b.options.validation document).map fun _ => document

end Builder

end StatementProfiles
