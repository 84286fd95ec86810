import StatementProfiles.Text.Utf8

/-!
# Tags

A tag is a sequence of octets, written with escapes where it is not ASCII; it ends at the first zero. `Tag.ofOctets` is
what a tag says about the value behind it. A tag that begins with `!` is the document's own, and names a choice.
-/

namespace StatementProfiles.Yaml

/-- What a tag says about a value. -/
inductive Tag where
  | bool
  | int
  | float
  | null
  /-- The name of a choice. -/
  | choice (name : String)
  /-- A tag of the document's own that is no text, and says nothing. -/
  | garbled
  /-- Another tag: a scalar with it is a text. -/
  | other
deriving DecidableEq, Repr, Inhabited

namespace Tag

/-- What the handle `!!` stands for: the tags of the core schema begin with it. -/
def corePrefix : List UInt8 := "tag:yaml.org,2002:".toUTF8.toList

/-- The tag of the core schema with a name. -/
def ofCoreName? (name : List UInt8) : Option Tag :=
  match Utf8.text? name with
  | some "bool" => some .bool
  | some "int" => some .int
  | some "float" => some .float
  | some "null" => some .null
  | _ => none

/-- What a sequence of octets says; the mark `!` alone is a name too. -/
def ofOctets (octets : List UInt8) : Tag :=
  match octets with
  | b :: rest =>
    if b == 0x21 then
      match Utf8.text? (if rest.isEmpty then octets else rest) with
      | some name => .choice name
      | none => .garbled
    else if corePrefix.isPrefixOf octets then (ofCoreName? (octets.drop corePrefix.length)).getD .other
    else .other
  | [] => .other

end Tag

/-- The octets in front of the first zero. -/
def untilZero (octets : List UInt8) : List UInt8 := octets.takeWhile (· != 0)

end StatementProfiles.Yaml
