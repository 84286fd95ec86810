/-!
# Outlines

An outline says which parts of a document are asked for: all of it, the items of a list, or the fields of a structure
under their names. What an outline leaves out may be anything at all.
-/

namespace StatementProfiles.Yaml

/-- The parts of a document that are asked for. -/
inductive Outline where
  | whole
  | list (item : Outline)
  | fields (named : List (String × Outline))
deriving Repr, Inhabited

namespace Outline

/-- The outline of a structure with whole fields, except those that have an outline of their own. -/
def ofFields (names : List String) (own : List (String × Outline)) : Outline :=
  .fields (own ++ names.map fun name => (name, whole))

/-- The outline of the items of a sequence. -/
def item : Outline → Outline
  | .list o => o
  | _ => .whole

/-- The outline of the value of a key, if it is asked for. -/
def value? (key : Option String) : Outline → Option Outline
  | .fields named => key.bind fun name => (named.find? fun f => f.1 == name).map Prod.snd
  | _ => some .whole

end Outline

end StatementProfiles.Yaml
