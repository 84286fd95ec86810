/-!
# Tokens of YAML

A YAML text is a list of tokens. Where a block collection begins and ends follows from the indentation of the text; the
tokens say it outright (`blockSequenceStart`, `blockMappingStart`, `blockEnd`).
-/

namespace StatementProfiles.Yaml

/-- How a scalar is written. -/
inductive ScalarStyle where
  /-- Without quotes. -/
  | plain
  /-- As a block that keeps its line breaks. -/
  | literal
  /-- In quotes, or as a folded block. -/
  | marked
deriving DecidableEq, Repr, Inhabited

/-- A token. -/
inductive Token where
  | version (major minor : Nat)
  | handle (name : String) (replacement : List UInt8)
  | documentStart
  | documentEnd
  | blockSequenceStart
  | blockMappingStart
  | blockEnd
  | flowSequenceStart
  | flowSequenceEnd
  | flowMappingStart
  | flowMappingEnd
  /-- The dash in front of an item of a block sequence. -/
  | blockEntry
  /-- The comma of a flow collection. -/
  | flowEntry
  | key
  | value
  | alias (name : String)
  | anchor (name : String)
  /-- A tag: a handle, empty when the rest is the whole tag, and the octets of the rest. -/
  | tag (handle : String) (rest : List UInt8)
  | scalar (style : ScalarStyle) (text : String)
deriving DecidableEq, Repr, Inhabited

end StatementProfiles.Yaml
