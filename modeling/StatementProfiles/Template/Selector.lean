import StatementProfiles.Error
import StatementProfiles.JsonPath.Reader
import StatementProfiles.JsonPath.Select

/-!
# Path selectors

A `PathSelector` is a list of paths with `|` between them. The text is cut at every `|`; the pieces are trimmed, and
empty ones are dropped. What it selects are the nodes of the first path, then those of the second, and so on.
-/

namespace StatementProfiles

/-- One path of a selector. -/
structure Alternative where
  text : String
  query : JsonPath.Query

/-- Paths with `|` between them. -/
structure PathSelector where
  /-- The text as written. -/
  source : String
  alternatives : List Alternative

namespace Alternative

/-- The path that a trimmed piece writes. -/
def parse (text : String) : Except Error Alternative :=
  if text.toList.head? = some '$' then
    match JsonPath.parse? text with
    | some query => .ok ⟨text, query⟩
    | none => .error (.invalidPath (.malformed text))
  else .error (.invalidPath (.noRoot text))

/-- The nodes that the path finds. -/
def select (a : Alternative) (document : Json) : List Json := a.query.select document

end Alternative

namespace PathSelector

/-- The trimmed pieces of a text that are not empty. -/
def pieces (source : String) : List String :=
  (((Text.splitOn '|' source.toList).map Text.trimChars).filter fun cs => !cs.isEmpty).map String.ofList

/-- The paths of several pieces, or the first fault among them. -/
def parseAll : List String → Except Error (List Alternative)
  | [] => .ok []
  | text :: rest =>
    match Alternative.parse text with
    | .error e => .error e
    | .ok a => match parseAll rest with
      | .error e => .error e
      | .ok as => .ok (a :: as)

/-- The selector that a text writes. -/
def parse (source : String) : Except Error PathSelector :=
  let texts := pieces source
  if texts.isEmpty then .error (.invalidPath (.noExpressions source))
  else (parseAll texts).map fun as => ⟨source, as⟩

/-- The texts of the paths. -/
def texts (s : PathSelector) : List String := s.alternatives.map Alternative.text

/-- The nodes that the paths find, path by path. -/
def select (s : PathSelector) (document : Json) : List Json := s.alternatives.flatMap fun a => a.select document

end PathSelector

end StatementProfiles
