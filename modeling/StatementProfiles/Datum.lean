import StatementProfiles.Yaml.Scalar
import StatementProfiles.Yaml.Tag

/-!
# Data as written

A `Datum` is what a JSON or YAML text says before anything is expected of it: entries in the order of the text, repeated
keys and all, YAML scalars untyped. The functions of this module read a datum as a value of an expected sort
(`text?`, `flag?`, `list?`, `optional`, `choice?`, `json?`); each gives nothing when the datum is not of that sort.

`Slots` are the fields of a structure. A record gives them by name, a JSON array by position; a named field may occur
once, and unknown names are passed over.
-/

namespace StatementProfiles

/-- A value as written in a text. -/
inductive Datum where
  | null
  | bool (value : Bool)
  | number (value : Number)
  | string (text : String)
  /-- An unquoted YAML scalar. -/
  | plain (text : String)
  /-- A YAML value with a tag. -/
  | tagged (tag : Yaml.Tag) (content : Datum)
  /-- A JSON array, which may stand for the fields of a structure in their order. -/
  | array (items : List Datum)
  /-- A YAML sequence, which stands for a list only. -/
  | sequence (items : List Datum)
  | record (entries : List (Datum × Datum))
  /-- A part that is well-formed but has no value: a broken escape, a number that is too great, too deep a nesting. -/
  | unreadable
deriving Repr, Inhabited

namespace Datum

mutual

/-- A JSON value as a datum. -/
def ofJson : Json → Datum
  | .null => .null
  | .bool b => .bool b
  | .number n => .number n
  | .string s => .string s
  | .array items => .array (ofItems items)
  | .object members => .record (ofMembers members)
termination_by structural j => j

/-- The items of an array as data. -/
def ofItems : List Json → List Datum
  | [] => []
  | j :: js => ofJson j :: ofItems js
termination_by structural js => js

/-- The members of an object as entries. -/
def ofMembers : List (String × Json) → List (Datum × Datum)
  | [] => []
  | (k, j) :: js => (.string k, ofJson j) :: ofMembers js
termination_by structural ms => ms

end

/-! ## Reading by sort -/

/-- A text: a string, or the text of any YAML scalar. -/
def text? : Datum → Option String
  | .string s => some s
  | .plain s => some s
  | .tagged _ (.string s) => some s
  | .tagged _ (.plain s) => some s
  | _ => none

/-- A truth value. -/
def flag? : Datum → Option Bool
  | .bool b => some b
  | .plain s => Yaml.truth? s
  | .tagged _ (.plain s) => Yaml.truth? s
  | _ => none

/-- The items of a list; an empty YAML scalar is the empty list. -/
def items? : Datum → Option (List Datum)
  | .array items => some items
  | .sequence items => some items
  | .tagged _ (.sequence items) => some items
  | .plain s => if s.isEmpty then some [] else none
  | .tagged _ (.plain s) => if s.isEmpty then some [] else none
  | _ => none

/-- The entries of a record; an empty YAML scalar is the empty record. -/
def entries? : Datum → Option (List (Datum × Datum))
  | .record entries => some entries
  | .tagged _ (.record entries) => some entries
  | .plain s => if s.isEmpty then some [] else none
  | .tagged _ (.plain s) => if s.isEmpty then some [] else none
  | _ => none

/-- A list of things of one sort. -/
def list? {α : Type} (read : Datum → Option α) (d : Datum) : Option (List α) :=
  d.items?.bind fun items => items.mapM read

/-- A thing or null. -/
def optional? {α : Type} (read : Datum → Option α) (d : Datum) : Option (Option α) :=
  match d with
  | .null => some none
  | .plain s => if s.isEmpty || Yaml.isNullWord s then some none else (read d).map some
  | .tagged tag (.plain s) =>
    if tag == .null then if Yaml.isNullWord s then some none else none
    else (read d).map some
  | _ => (read d).map some

/-- A name out of a choice: a text, a record with that one name and null, or a YAML tag. -/
def choice? : Datum → Option String
  | .string s => some s
  | .plain s => some s
  | .record [(.string name, .null)] => some name
  | .tagged (.choice name) (.plain s) => if s.isEmpty || Yaml.isNullWord s then some name else none
  | .tagged (.choice _) _ => none
  | .tagged _ content => content.text?
  | _ => none

/-- The members of a map with texts as keys; the last value of a key stays. -/
def members? {α : Type} (read : Datum → Option α) (d : Datum) : Option (Members α) :=
  d.entries?.bind fun entries =>
    (entries.mapM fun (key, value) => (text? key).bind fun k => (read value).map fun v => (k, v)).map Members.ofList

/-- A map of texts. -/
def texts? (d : Datum) : Option (Members String) := d.members? text?

/-- The value of a YAML scalar with a tag, given the value that it has without one. -/
def taggedScalar? (tag : Yaml.Tag) (untagged : Option Json) (s : String) : Option Json :=
  match tag with
  | .bool => (Yaml.truth? s).map Json.bool
  | .int => (Yaml.integer? s.toList).bind Yaml.boundedInteger?
  | .float => if Yaml.isUnboundedWord s then some .null else (Yaml.decimal? s.toList).map fun x => .number (.real x)
  | .null => if Yaml.isNullWord s then some .null else none
  | .choice _ => none
  | .garbled => untagged
  | .other => some (.string s)

/-- The JSON value of a scalar. -/
def scalar? : Datum → Option Json
  | .null => some .null
  | .bool b => some (.bool b)
  | .number n => some (.number n)
  | .string s => some (.string s)
  | .plain s => Yaml.resolve s
  | .tagged tag (.plain s) => taggedScalar? tag (Yaml.resolve s) s
  | .tagged tag (.string s) => taggedScalar? tag (some (.string s)) s
  | _ => none

/-- A text and nothing else: an unquoted scalar of another type is none. -/
def onlyText? (d : Datum) : Option String := d.scalar?.bind Json.asString?

mutual

/-- Any JSON value, given how keys are read. -/
def value? (key? : Datum → Option String) : Datum → Option Json
  | .array items => (valueItems? key? items).map Json.array
  | .sequence items => (valueItems? key? items).map Json.array
  | .record entries => (valueEntries? key? entries).map Json.ofPairs
  | .tagged tag content =>
    match tag, content with
    | tag, .plain s => scalar? (.tagged tag (.plain s))
    | tag, .string s => scalar? (.tagged tag (.string s))
    | .choice _, _ => none
    | _, content => value? key? content
  | d => d.scalar?
termination_by structural d => d

/-- The items of an array of any values. -/
def valueItems? (key? : Datum → Option String) : List Datum → Option (List Json)
  | [] => some []
  | d :: ds => (value? key? d).bind fun j => (valueItems? key? ds).map (j :: ·)
termination_by structural ds => ds

/-- The members of an object of any values. -/
def valueEntries? (key? : Datum → Option String) : List (Datum × Datum) → Option (List (String × Json))
  | [] => some []
  | (k, d) :: es => (key? k).bind fun key => (value? key? d).bind fun j =>
    (valueEntries? key? es).map ((key, j) :: ·)
termination_by structural es => es

end

/-- Any JSON value; a key may be any scalar. -/
def json? (d : Datum) : Option Json := d.value? text?

/-- Any JSON value in which every key is a text and nothing else. -/
def strictJson? (d : Datum) : Option Json := d.value? onlyText?

mutual

/-- Whether every scalar has a value and no collection names a choice, keys included. -/
def isSound : Datum → Bool
  | .array items => areSoundItems items
  | .sequence items => areSoundItems items
  | .record entries => areSoundEntries entries
  | .tagged tag content =>
    match tag, content with
    | tag, .plain s => (scalar? (.tagged tag (.plain s))).isSome
    | tag, .string s => (scalar? (.tagged tag (.string s))).isSome
    | .choice _, _ => false
    | _, content => isSound content
  | d => d.scalar?.isSome
termination_by structural d => d

/-- Whether all items are sound. -/
def areSoundItems : List Datum → Bool
  | [] => true
  | d :: ds => isSound d && areSoundItems ds
termination_by structural ds => ds

/-- Whether all keys and values are sound. -/
def areSoundEntries : List (Datum × Datum) → Bool
  | [] => true
  | (k, d) :: es => isSound k && (isSound d && areSoundEntries es)
termination_by structural es => es

end

/-! ## Structures -/

/-- The fields of a structure as written. -/
inductive Slots where
  /-- Fields by name, each at most once. -/
  | named (fields : List (String × Datum))
  /-- Fields by position; those behind the last one are missing. -/
  | positional (fields : List (String × Datum))

namespace Slots

/-- What is written for a field. -/
def written? : Slots → String → Option Datum
  | .named fields, name => Members.find? fields name
  | .positional fields, name => Members.find? fields name

/-- The entries with a known name; nothing when a key is no text or a known name occurs twice. -/
def known? (names : List String) : List (Datum × Datum) → Option (List (String × Datum))
  | [] => some []
  | (k, d) :: rest => k.text?.bind fun name => (known? names rest).bind fun fields =>
    if names.contains name then
      if Members.contains fields name then none else some ((name, d) :: fields)
    else some fields

/-- The fields of a structure with the given names in their order. -/
def of? (names : List String) (d : Datum) : Option Slots :=
  match d with
  | .array items => if items.length ≤ names.length then some (.positional (names.zip items)) else none
  | _ => d.entries?.bind fun entries => (known? names entries).map Slots.named

variable {α : Type}

/-- A field that has to be there. -/
def required? (s : Slots) (name : String) (read : Datum → Option α) : Option α :=
  (s.written? name).bind read

/-- A field that has a value of its own when it is missing. -/
def withDefault? (s : Slots) (name : String) (fallback : α) (read : Datum → Option α) : Option α :=
  match s.written? name with
  | some d => read d
  | none => some fallback

/-- A field that may be missing or null. -/
def optional? (s : Slots) (name : String) (read : Datum → Option α) : Option (Option α) :=
  s.withDefault? name none (Datum.optional? read)

/-- A field that may be null, and may be missing where fields go by name. -/
def optionalByName? (s : Slots) (name : String) (read : Datum → Option α) : Option (Option α) :=
  match s.written? name, s with
  | some d, _ => Datum.optional? read d
  | none, .named _ => some none
  | none, .positional _ => none

end Slots

end Datum

end StatementProfiles
