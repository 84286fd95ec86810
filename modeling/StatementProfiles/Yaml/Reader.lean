import StatementProfiles.Datum
import StatementProfiles.Text.Utf8
import StatementProfiles.Yaml.Lexer
import StatementProfiles.Yaml.Node
import StatementProfiles.Yaml.Outline

/-!
# Reading YAML

`Yaml.read` reads octets as one document, as far as an outline asks for it. Aliases are replaced by what they stand for;
what is nested too deeply, by itself or through aliases, and what comes after too many aliases, is unreadable, and so is
what nobody asks for.
-/

namespace StatementProfiles.Yaml

namespace Node

/-- The number of collections that may lie in one another. -/
def greatestDepth : Nat := 128

/-- The number of aliases that may be followed for each unit of size. -/
def aliasesPerSize : Nat := 100

/-- The tag of a node and what lies below its anchor and its tag. -/
def core : Node → Option Tag × Node
  | .anchored _ content => core content
  | .tagged tag content => (some (.ofOctets tag), (core content).2)
  | n => (none, n)

/-- The datum with a tag. -/
def taggedDatum (tag : Option Tag) (d : Datum) : Datum :=
  match tag with
  | some t => .tagged t d
  | none => d

/-- The datum of a scalar. A truth value may be written as a literal block, with a tag that says so. -/
def scalarDatum (tag : Option Tag) (style : ScalarStyle) (text : String) : Datum :=
  let isTruth := style == .literal && tag == some .bool && (truth? text).isSome
  taggedDatum tag (if style == .plain || isTruth then .plain text else .string text)

/-- A reader of nodes, as far as an outline goes, that counts down the aliases that it may still follow. -/
abbrev Expansion := Outline → Node → StateM Nat Datum

/-- The datum of an entry of a mapping, given how its parts are read. -/
def expandEntry (read : Expansion) (o : Outline) (entry : Node × Node) : StateM Nat (Datum × Datum) := do
  let key ← read .whole entry.1
  match o.value? key.text? with
  | some o => return (key, ← read o entry.2)
  | none => return (key, .unreadable)

/-- The datum of a node that is no alias, given how its parts are read, if they may be. -/
def expandCore (parts : Option Expansion) (o : Outline) (n : Node) : StateM Nat Datum := do
  let (tag, content) := n.core
  match content, parts with
  | .scalar style text, _ => return scalarDatum tag style text
  | .sequence items, some read => return taggedDatum tag (.sequence (← items.mapM (read o.item)))
  | .mapping entries, some read => return taggedDatum tag (.record (← entries.mapM (expandEntry read o)))
  | _, _ => return .unreadable

/-- The datum of a node, given the nodes with an anchor. -/
def expandWith (anchored : List (Nat × Node)) (parts : Option Expansion) (o : Outline) (n : Node) :
    StateM Nat Datum := do
  match n with
  | .alias number =>
    let left ← get
    match left, anchored.find? fun a => a.1 == number with
    | left + 1, some (_, target) =>
      set left
      expandCore parts o target
    | _, _ => return .unreadable
  | n => expandCore parts o n

/-- The datum of a node in which collections may lie in one another to a depth. -/
def expand (anchored : List (Nat × Node)) : (depth : Nat) → Expansion
  | 0 => expandWith anchored none
  | depth + 1 => expandWith anchored (some (expand anchored depth))

/-- The datum of a tree; of several anchors with one number the last one counts. -/
def toDatum (o : Outline) (n : Node) : Datum :=
  ((expand n.anchors.reverse greatestDepth o n).run (n.size * aliasesPerSize)).1

end Node

/-- The datum of the characters of a text. -/
def readChars (o : Outline) (cs : List Char) : Option Datum :=
  if cs.all isPrintable then ((Lexer.tokens? cs).bind Node.ofTokens?).map (Node.toDatum o) else none

/-- The datum of a text. -/
def readText (o : Outline) (s : String) : Option Datum := readChars o s.toList

/-- The datum of octets. -/
def read (o : Outline) (octets : List UInt8) : Option Datum :=
  (Utf8.characters? (Utf8.decode octets)).bind (readChars o)

end StatementProfiles.Yaml
