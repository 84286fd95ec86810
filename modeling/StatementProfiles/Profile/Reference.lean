import StatementProfiles.Datum

/-!
# References

A pattern names its children by their IRIs, bare or each in an object.
-/

namespace StatementProfiles

/-- A mention of a template or a pattern. -/
inductive Reference where
  /-- The IRI alone. -/
  | bare (id : String)
  /-- The IRI in an object. -/
  | object (id : String)
deriving DecidableEq, Repr, Inhabited

namespace Reference

/-- The IRI that is mentioned. -/
def id : Reference → String
  | .bare id => id
  | .object id => id

/-- The reference as written. -/
def toJson : Reference → Json
  | .bare id => .string id
  | .object id => .ofPairs [("id", .string id)]

/-- Whether a text begins with a minus sign. -/
def isSigned (s : String) : Bool := s.startsWith "-"

/-- Whether an entry of an object is the IRI: its key is the name of the field, or its number, without a sign. -/
def isIdKey? (key : Datum) : Option Bool :=
  match key.scalar? with
  | some (.string name) => some (name == "id")
  | some (.number (.int i)) => if key.text?.any isSigned then none else some (i == 0)
  | _ => none

/-- The values of the entries that are the IRI; nothing when a key is of no use or a value is unsound. -/
def idEntries? : List (Datum × Datum) → Option (List Datum)
  | [] => some []
  | (key, value) :: rest =>
    (isIdKey? key).bind fun isId => (idEntries? rest).bind fun found =>
      if !value.isSound then none else some (if isId then value :: found else found)

/-- The IRI in the entries of an object, once. -/
def idOfEntries? (entries : List (Datum × Datum)) : Option String :=
  match idEntries? entries with
  | some [d] => d.onlyText?
  | _ => none

/-- The reference of a datum; an array is none. -/
def ofDatum? : Datum → Option Reference
  | .record entries => (idOfEntries? entries).map object
  | .tagged (.choice _) _ => none
  | .tagged _ (.record entries) => (idOfEntries? entries).map object
  | d => d.onlyText?.map bare

end Reference

end StatementProfiles
