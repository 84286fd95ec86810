import StatementProfiles.Document.Path
import StatementProfiles.Json.Printer
import StatementProfiles.Template.Basic

/-!
# Checking statements against templates

`Template.violations` lists what a statement gets wrong, at most one `Violation` a check, in this order: verb, object
activity type, context activity types by relation, attachment usage types, references to statements, and the rules as
declared. `Violation.message` is the wording.
-/

namespace StatementProfiles

/-- What a statement gets wrong. -/
inductive Violation where
  | verb (actual : Option String) (expected : String)
  | objectType (actual : Option String) (expected : String)
  | contextTypes (relation : ContextRelation) (missing : List String)
  | usageTypes (missing : List String)
  | objectReference
  | contextReference
  /-- A required value is not there. -/
  | nothingFound (target : String)
  /-- A located value has no part that the selector looks for. -/
  | partMissing (target : String)
  | excludedFound (target : String) (found : List Json)
  /-- No value is among those of which one is required. -/
  | noneAmong (target : String) (found allowed : List Json)
  /-- Some values are not among those allowed. -/
  | notAmong (target : String) (offending allowed : List Json)
  /-- A located value has no part to be among the allowed values. -/
  | partNotAmong (target : String)
  | forbiddenFound (target : String) (found : List Json)
deriving DecidableEq, Repr

namespace Violation

/-- Values in brackets. -/
def showAll (values : List Json) : String := "[" ++ ", ".intercalate (values.map Json.render) ++ "]"

/-- A text, or the note that there is none. -/
def showText (actual : Option String) : String := actual.getD "(absent)"

/-- The wording of a violation. -/
def message : Violation → String
  | .verb actual expected => "verb " ++ showText actual ++ " does not match required verb " ++ expected
  | .objectType actual expected =>
    "object activity type " ++ showText actual ++ " does not match required type " ++ expected
  | .contextTypes relation missing =>
    "context activities '" ++ relation.key ++ "' lack required types [" ++ ", ".intercalate missing ++ "]"
  | .usageTypes missing => "attachments lack required usage types [" ++ ", ".intercalate missing ++ "]"
  | .objectReference => "object must be a StatementRef"
  | .contextReference => "context.statement must be a StatementRef"
  | .nothingFound target => target ++ " is required but matched nothing"
  | .partMissing target => target ++ " is required but some located values have no match"
  | .excludedFound target found => target ++ " is excluded but matched " ++ showAll found
  | .noneAmong target found allowed =>
    target ++ " matched " ++ showAll found ++ ", none of which is among " ++ showAll allowed
  | .notAmong target offending allowed =>
    target ++ " matched " ++ showAll offending ++ " which are not among " ++ showAll allowed
  | .partNotAmong target => target ++ " has located values with no match for 'all'"
  | .forbiddenFound target found => target ++ " matched forbidden values " ++ showAll found

end Violation

/-! ## Rules -/

namespace TemplateRule

/-- The first violation of two checks. -/
def orElse (first second : Option Violation) : Option Violation :=
  match first with
  | some v => some v
  | none => second

/-- The check of the values of which one is required. -/
def checkAny (target : String) (values : List Json) : Option (List Json) → Option Violation
  | none => none
  | some allowed =>
    if values.any (·.isAmong allowed) then none else some (.noneAmong target values allowed)

/-- The check of the values that all have to be among. -/
def checkAll (target : String) (values : List Json) (unmatched : Bool) : Option (List Json) → Option Violation
  | none => none
  | some allowed =>
    let offending := values.filter fun v => !v.isAmong allowed
    if !offending.isEmpty then some (.notAmong target offending allowed)
    else if unmatched then some (.partNotAmong target)
    else none

/-- The check of the values that none may be among. -/
def checkNone (target : String) (values : List Json) : Option (List Json) → Option Violation
  | none => none
  | some forbidden =>
    let found := values.filter (·.isAmong forbidden)
    if found.isEmpty then none else some (.forbiddenFound target found)

/-- The checks of the values, one after another. -/
def checkValues (r : TemplateRule) (values : List Json) (unmatched : Bool) : Option Violation :=
  orElse (checkAny r.target values r.rule.any)
    (orElse (checkAll r.target values unmatched r.rule.all) (checkNone r.target values r.rule.none))

/-- What a statement gets wrong about a rule. -/
def check (r : TemplateRule) (statement : Json) : Option Violation :=
  let values := r.values statement
  let unmatched := r.hasUnmatched statement
  match r.rule.presence with
  | some .included =>
    if values.isEmpty then some (.nothingFound r.target)
    else if unmatched then some (.partMissing r.target)
    else checkValues r values unmatched
  | some .excluded => if values.isEmpty then none else some (.excludedFound r.target values)
  | some .recommended => if values.isEmpty then none else checkValues r values unmatched
  | none => checkValues r values unmatched

end TemplateRule

/-! ## Templates -/

namespace Template

/-- The text at a path of a statement. -/
def textAt (statement : Json) (path : Path) : Option String := (statement.get? path).bind Json.asString?

/-- An array as its items, anything else as a single item. -/
def asList : Json → List Json
  | .array items => items
  | j => [j]

/-- The texts at a path of each of the things at another; they are a list or one thing. -/
def textsAt (statement : Json) (path inner : Path) : List String :=
  (((statement.get? path).map asList).getD []).filterMap fun j => textAt j inner

/-- What of a list is not in another. -/
def missingFrom (required present : List String) : List String := required.filter fun t => !present.contains t

/-- The check of the verb. -/
def checkVerb (t : Template) (statement : Json) : Option Violation :=
  match t.verb with
  | none => none
  | some expected =>
    let actual := textAt statement ["verb", "id"]
    if actual = some expected then none else some (.verb actual expected)

/-- The check of the object's activity type. -/
def checkObjectType (t : Template) (statement : Json) : Option Violation :=
  match t.objectActivityType with
  | none => none
  | some expected =>
    let actual := textAt statement ["object", "definition", "type"]
    if actual = some expected then none else some (.objectType actual expected)

/-- The check of the activity types of a relation. -/
def checkContextTypes (t : Template) (statement : Json) (relation : ContextRelation) : Option Violation :=
  let present := textsAt statement ["context", "contextActivities", relation.key] ["definition", "type"]
  let missing := missingFrom (t.contextTypes.required relation) present
  if missing.isEmpty then none else some (.contextTypes relation missing)

/-- The check of the attachments. -/
def checkUsageTypes (t : Template) (statement : Json) : Option Violation :=
  let missing := missingFrom t.attachmentUsageTypes (textsAt statement ["attachments"] ["usageType"])
  if missing.isEmpty then none else some (.usageTypes missing)

/-- The check that the object refers to a statement. -/
def checkObjectReference (t : Template) (statement : Json) : Option Violation :=
  if t.objectStatementRef && textAt statement ["object", "objectType"] ≠ some "StatementRef" then
    some .objectReference
  else none

/-- The check that the context refers to a statement. -/
def checkContextReference (t : Template) (statement : Json) : Option Violation :=
  if t.contextStatementRef && textAt statement ["context", "statement", "objectType"] ≠ some "StatementRef" then
    some .contextReference
  else none

/-- The results of all checks in their order. -/
def checks (t : Template) (statement : Json) : List (Option Violation) :=
  [t.checkVerb statement, t.checkObjectType statement]
    ++ ContextRelation.all.map (t.checkContextTypes statement)
    ++ [t.checkUsageTypes statement, t.checkObjectReference statement, t.checkContextReference statement]
    ++ t.rules.map (·.check statement)

/-- What a statement gets wrong, in the order of the checks. -/
def violations (t : Template) (statement : Json) : List Violation := (t.checks statement).filterMap fun v => v

/-- The violations that a mode reports. -/
def reported (t : Template) (mode : ValidationMode) (statement : Json) : List Violation :=
  match mode with
  | .failFast => (t.violations statement).take 1
  | .collect => t.violations statement

/-- The verdict on a statement. -/
def validate (t : Template) (mode : ValidationMode) (statement : Json) : Except Error Unit :=
  let found := t.reported mode statement
  if found.isEmpty then .ok () else .error (.violations t.id (found.map Violation.message))

end Template

end StatementProfiles
