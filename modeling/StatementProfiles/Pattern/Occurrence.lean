import StatementProfiles.Datum
import StatementProfiles.Error
import StatementProfiles.Pattern.Match
import StatementProfiles.Uuid

/-!
# Running instances of a pattern

An `Occurrence` follows one pattern under one registration and records the templates of its statements. `append`
records a template when the pattern allows it next; a template that it does not allow is refused and nothing changes.
The recorded part (`MatchState`) can be written out and taken up again.
-/

namespace StatementProfiles

/-- What an occurrence has recorded. -/
structure MatchState where
  /-- The pattern that is followed. -/
  patternId : String
  /-- The version of the profile that defines the pattern. -/
  profileVersion : Option String
  /-- The accepted template ids in order. -/
  templates : List String
deriving DecidableEq, Repr, Inhabited

namespace MatchState

/-- Nothing recorded yet. -/
def start (patternId : String) (profileVersion : Option String) : MatchState := ⟨patternId, profileVersion, []⟩

/-- The state as an object; a missing version is left out. -/
def toJson (s : MatchState) : Json :=
  .ofPairs (("patternId", .string s.patternId) ::
    (s.profileVersion.toList.map fun v => ("profileVersion", .string v)) ++ [("templates", .strings s.templates)])

/-- The state as written. -/
def ofDatum? (d : Datum) : Option MatchState :=
  (Datum.Slots.of? ["patternId", "profileVersion", "templates"] d).bind fun slots =>
  (slots.required? "patternId" Datum.text?).bind fun patternId =>
  (slots.optional? "profileVersion" Datum.text?).bind fun profileVersion =>
  (slots.withDefault? "templates" [] (Datum.list? Datum.text?)).map fun templates =>
    ⟨patternId, profileVersion, templates⟩

end MatchState

/-- One run through a pattern. -/
structure Occurrence where
  /-- The identifier that the statements of the run share. -/
  registration : Uuid
  grammar : Pattern
  state : MatchState
deriving Repr, Inhabited

namespace Occurrence

/-- The templates recorded so far. -/
def templates (o : Occurrence) : List String := o.state.templates

/-- Whether the template may be the next one. -/
def canAppend (o : Occurrence) (template : String) : Bool := o.grammar.canAppend o.templates template

/-- Whether the template is recorded, and the occurrence after that. -/
def append (o : Occurrence) (template : String) : Except Error Unit × Occurrence :=
  if o.canAppend template then
    (.ok (), { o with state := { o.state with templates := o.templates ++ [template] } })
  else (.error (.outOfSequence o.state.patternId template o.templates), o)

/-- Whether the recorded sequence satisfies the pattern. -/
def isComplete (o : Occurrence) : Bool := (o.grammar.run o.templates).isComplete

end Occurrence

end StatementProfiles
