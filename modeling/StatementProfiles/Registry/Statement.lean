import StatementProfiles.Document.Builder
import StatementProfiles.Pattern.Occurrence
import StatementProfiles.Registry.Basic

/-!
# Statements of registered templates

`Registry.occurrence` starts a run through a pattern. `Registry.statement` begins the next statement of a run: what the
template determines is filled in, with the run's registration and the version of the profile, and the run records the
template.
-/

namespace StatementProfiles

namespace Registry

/-- The activity type of the activity that names the version of a profile. -/
def profileActivityType : String := "http://adlnet.gov/expapi/activities/profile"

/-- A new run through the pattern that a name stands for. -/
def occurrence (r : Registry) (name : String) (registration : Uuid) : Except Error Occurrence × Registry :=
  match r.pattern? name with
  | .error e => (.error e, r)
  | .ok entry =>
    let (found, r) := r.grammar entry.definition.id
    (found.map fun g => ⟨registration, g, .start entry.definition.id entry.profileVersion⟩, r)

/-- The activity that names the version of a profile. -/
def versionActivity (r : Registry) (version : String) : Except Error Builder :=
  match Builder.activity version with
  | .error e => .error e
  | .ok b => { b with resolver := r.resolver }.apply (.activityType profileActivityType)

/-- What the version of a profile puts into a statement. -/
def versionSettings (r : Registry) : Option String → Except Error (List Setting)
  | none => .ok []
  | some version => (r.versionActivity version).map fun b => [.contextActivity .category b]

/-- What a template and a registration put into a statement, without the version of the profile. -/
def templateSettings (t : Template) (registration : Option Uuid) : List Setting :=
  (t.verb.toList.map Setting.verb) ++ (t.objectActivityType.toList.map Setting.objectActivityType)
    ++ (registration.toList.map Setting.registration)

/-- An empty statement of a template. -/
def blank (r : Registry) (t : Template) : Builder :=
  { Builder.start .statement with resolver := r.resolver, options := r.options, template := some t }

/-- A statement with what a template determines. -/
def prefill (r : Registry) (t : Template) (registration : Option Uuid) : Except Error Builder :=
  match (r.blank t).applyAll (templateSettings t registration) with
  | .error e => .error e
  | .ok b => (r.versionSettings t.profileVersion).bind b.applyAll

/-- The next statement of a run, of the template that a name stands for, and the run after that. The run records the
template when there is a statement, and stays as it is otherwise. -/
def statement (r : Registry) (name : String) (o : Occurrence) : Except Error Builder × Occurrence :=
  match r.template? name with
  | .error e => (.error e, o)
  | .ok t => match r.prefill t (some o.registration) with
    | .error e => (.error e, o)
    | .ok b => match o.append t.id with
      | (.error e, o) => (.error e, o)
      | (.ok (), o) => (.ok b, o)

/-- A statement of the template that a name stands for, outside of any run. -/
def templateStatement (r : Registry) (name : String) : Except Error Builder :=
  (r.template? name).bind fun t => r.prefill t none

end Registry

end StatementProfiles
