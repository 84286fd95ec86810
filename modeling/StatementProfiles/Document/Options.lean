import StatementProfiles.Template.Basic

/-!
# Options of builders

How a document is finished: whether a missing id and timestamp are filled in, the language of plain texts, and how
violations of a template are reported.
-/

namespace StatementProfiles

/-- How documents are finished. -/
structure BuildOptions where
  /-- Whether a statement without an id gets one. -/
  generateIds : Bool := true
  /-- Whether a statement without a timestamp gets one. -/
  generateTimestamps : Bool := true
  /-- The language tag of names and descriptions. -/
  language : String := "en"
  validation : ValidationMode := .failFast
deriving DecidableEq, Repr, Inhabited

end StatementProfiles
