import StatementProfiles.Yaml.Tag
import StatementProfiles.Yaml.Token

/-!
# Nodes

A document is a tree of nodes. `Node.ofTokens?` builds the tree of a text that holds one document. Anchors and aliases
are numbered: an anchor has the number of names before it, or a new number when its name is used again, and an alias the
number of the latest anchor of its name.
-/

namespace StatementProfiles.Yaml

/-- A part of a document. -/
inductive Node where
  | scalar (style : ScalarStyle) (text : String)
  | sequence (items : List Node)
  | mapping (entries : List (Node × Node))
  | alias (number : Nat)
  | anchored (number : Nat) (content : Node)
  | tagged (tag : List UInt8) (content : Node)
deriving Repr, Inhabited

namespace Node

/-- The empty scalar. -/
def empty : Node := .scalar .plain ""

/-- What is known while tokens are read. -/
structure State where
  tokens : List Token
  /-- The names of anchors with their numbers. -/
  anchors : List (String × Nat)
  /-- The handles of tags with what they stand for. -/
  handles : List (String × List UInt8)

/-- A reader of a part. -/
abbrev Reader (α : Type) := StateT State Option α

/-- The next token. -/
def peek : Reader (Option Token) := return (← get).tokens.head?

/-- Passes over the next token. -/
def skip : Reader Unit := modify fun s => { s with tokens := s.tokens.drop 1 }

/-- Passes over a token that has to be there. -/
def expect (t : Token) : Reader Unit := do
  if (← peek) == some t then skip else failure

/-- Passes over a token, if it is there. -/
def accept (t : Token) : Reader Bool := do
  if (← peek) == some t then skip; return true else return false

/-- Whether the next token is one of several. -/
def isAhead (ts : List Token) : Reader Bool := return (← peek).any ts.contains

/-- The number for an anchor. -/
def declare (name : String) : Reader Nat := do
  let s ← get
  let number := s.anchors.length
  set { s with anchors := (name, number) :: s.anchors.filter fun a => a.1 != name }
  return number

/-- The number of an alias. -/
def refer (name : String) : Reader Nat := do
  match (← get).anchors.find? fun a => a.1 == name with
  | some (_, number) => return number
  | none => failure

/-- The tag of a handle and the rest. -/
def resolveTag (handle : String) (rest : List UInt8) : Reader (List UInt8) := do
  if handle.isEmpty then return rest
  match (← get).handles.find? fun h => h.1 == handle with
  | some (_, replacement) => return replacement ++ rest
  | none => failure

/-- The anchor and the tag in front of a node, in either order. -/
def properties : Reader (Option Nat × Option (List UInt8)) := do
  match ← peek with
  | some (.anchor name) =>
    skip
    match ← peek with
    | some (.tag handle rest) =>
      skip
      let tag ← resolveTag handle rest
      return (some (← declare name), some tag)
    | _ => return (some (← declare name), none)
  | some (.tag handle rest) =>
    skip
    match ← peek with
    | some (.anchor name) =>
      skip
      let tag ← resolveTag handle rest
      return (some (← declare name), some tag)
    | _ => return (none, some (← resolveTag handle rest))
  | _ => return (none, none)

/-- A node with a tag. -/
def withTag (tag : Option (List UInt8)) (n : Node) : Node :=
  match tag with
  | none => n
  | some t => .tagged t n

/-- A node with an anchor. -/
def withAnchor (anchor : Option Nat) (n : Node) : Node :=
  match anchor with
  | some number => .anchored number n
  | none => n

/-- The empty scalar where there are properties and nothing behind them. -/
def withoutContent (anchor : Option Nat) (tag : Option (List UInt8)) : Reader Node :=
  match anchor, tag with
  | none, none => failure
  | _, some t => return withAnchor anchor (.tagged t empty)
  | _, none => return withAnchor anchor empty

mutual

/-- A node. Block collections may stand where `inBlock`, and a block sequence without indentation of its own where
`unindented`. -/
def node : (fuel : Nat) → (inBlock unindented : Bool) → Reader Node
  | 0, _, _ => failure
  | fuel + 1, inBlock, unindented => do
    if let some (.alias name) ← peek then
      skip
      return .alias (← refer name)
    let (anchor, tag) ← properties
    let whole (n : Node) : Node := withAnchor anchor (withTag tag n)
    match ← peek with
    | some (.scalar style text) => skip; return whole (.scalar style text)
    | some .flowSequenceStart => skip; return whole (.sequence (← flowItems fuel true))
    | some .flowMappingStart => skip; return whole (.mapping (← flowEntries fuel true))
    | some .blockEntry =>
      if unindented then return whole (.sequence (← looseItems fuel)) else withoutContent anchor tag
    | some .blockSequenceStart =>
      if inBlock then skip; return whole (.sequence (← blockItems fuel)) else withoutContent anchor tag
    | some .blockMappingStart =>
      if inBlock then skip; return whole (.mapping (← blockEntries fuel)) else withoutContent anchor tag
    | _ => withoutContent anchor tag
termination_by structural fuel => fuel

/-- A node, or the empty scalar when one of several tokens is next. -/
def nodeUnless : (fuel : Nat) → (inBlock unindented : Bool) → List Token → Reader Node
  | 0, _, _, _ => failure
  | fuel + 1, inBlock, unindented, stops => do
    if ← isAhead stops then return empty else node fuel inBlock unindented
termination_by structural fuel => fuel

/-- The items of a block sequence, to its end. -/
def blockItems : (fuel : Nat) → Reader (List Node)
  | 0 => failure
  | fuel + 1 => do
    if ← accept .blockEnd then return []
    expect .blockEntry
    let item ← nodeUnless fuel true false [.blockEntry, .blockEnd]
    return item :: (← blockItems fuel)
termination_by structural fuel => fuel

/-- The items of a block sequence without indentation of its own. -/
def looseItems : (fuel : Nat) → Reader (List Node)
  | 0 => failure
  | fuel + 1 => do
    if ← accept .blockEntry then
      let item ← nodeUnless fuel true false [.blockEntry, .key, .value, .blockEnd]
      return item :: (← looseItems fuel)
    else return []
termination_by structural fuel => fuel

/-- The entries of a block mapping, to its end. -/
def blockEntries : (fuel : Nat) → Reader (List (Node × Node))
  | 0 => failure
  | fuel + 1 => do
    if ← accept .blockEnd then return []
    expect .key
    let key ← nodeUnless fuel true true [.key, .value, .blockEnd]
    let value ← blockValue fuel
    return (key, value) :: (← blockEntries fuel)
termination_by structural fuel => fuel

/-- The value of an entry of a block mapping. -/
def blockValue : (fuel : Nat) → Reader Node
  | 0 => failure
  | fuel + 1 => do
    if ← accept .value then nodeUnless fuel true true [.key, .value, .blockEnd] else return empty
termination_by structural fuel => fuel

/-- The items of a flow sequence, to its end. -/
def flowItems : (fuel : Nat) → (isFirst : Bool) → Reader (List Node)
  | 0, _ => failure
  | fuel + 1, isFirst => do
    if ← accept .flowSequenceEnd then return []
    if !isFirst then
      expect .flowEntry
      if ← accept .flowSequenceEnd then return []
    let item ← flowItem fuel
    return item :: (← flowItems fuel false)
termination_by structural fuel => fuel

/-- An item of a flow sequence; a key begins a mapping of one entry. A key that is missing takes the next token with
it. -/
def flowItem : (fuel : Nat) → Reader Node
  | 0 => failure
  | fuel + 1 => do
    if ← accept .key then
      let stops := [.value, .flowEntry, .flowSequenceEnd]
      let isMissing ← isAhead stops
      let key ← nodeUnless fuel false false stops
      if isMissing then skip
      let value ← flowValue fuel [.flowEntry, .flowSequenceEnd]
      return .mapping [(key, value)]
    else node fuel false false
termination_by structural fuel => fuel

/-- The value of an entry of a flow collection. -/
def flowValue : (fuel : Nat) → (stops : List Token) → Reader Node
  | 0, _ => failure
  | fuel + 1, stops => do
    if ← accept .value then nodeUnless fuel false false stops else return empty
termination_by structural fuel => fuel

/-- The entries of a flow mapping, to its end. -/
def flowEntries : (fuel : Nat) → (isFirst : Bool) → Reader (List (Node × Node))
  | 0, _ => failure
  | fuel + 1, isFirst => do
    if ← accept .flowMappingEnd then return []
    if !isFirst then
      expect .flowEntry
      if ← accept .flowMappingEnd then return []
    if ← accept .key then
      let key ← nodeUnless fuel false false [.value, .flowEntry, .flowMappingEnd]
      let value ← flowValue fuel [.flowEntry, .flowMappingEnd]
      return (key, value) :: (← flowEntries fuel false)
    else
      let key ← node fuel false false
      return (key, empty) :: (← flowEntries fuel false)
termination_by structural fuel => fuel

end

/-! ## Documents -/

/-- The handles that need no directive. -/
def defaultHandles : List (String × List UInt8) := [("!", [0x21]), ("!!", Tag.corePrefix)]

/-- The directives in front of a document: at most one version, which is 1.1 or 1.2, and every handle once. -/
def directives : (isVersionKnown : Bool) → List (String × List UInt8) → List Token →
    Option (List (String × List UInt8) × List Token)
  | isVersionKnown, handles, .version major minor :: rest =>
    if isVersionKnown || major != 1 || (minor != 1 && minor != 2) then none else directives true handles rest
  | isVersionKnown, handles, .handle name replacement :: rest =>
    if handles.any fun h => h.1 == name then none
    else directives isVersionKnown (handles ++ [(name, replacement)]) rest
  | _, handles, rest => some (handles ++ defaultHandles, rest)

/-- Whether a token begins a document outright. -/
def isPrologue : Token → Bool
  | .version .. | .handle .. | .documentStart => true
  | _ => false

/-- Whether a token cannot be part of a document's content. -/
def isOutside (t : Token) : Bool := isPrologue t || t == .documentEnd

/-- The tree of a document's content, which may be missing behind the mark of its start; nothing but marks of its end
may follow. -/
def content? (isMarked : Bool) (handles : List (String × List UInt8)) (ts : List Token) : Option Node :=
  let isMissing := ts.head?.all isOutside
  let read : Reader Node := if isMarked && isMissing then return empty else node (6 * ts.length + 6) true false
  (read.run ⟨ts, [], handles⟩).bind fun (n, s) =>
    if s.tokens.all (· == .documentEnd) then some n else none

/-- The tree of a text with one document at most; a text without a document is an empty one. -/
def ofTokens? (ts : List Token) : Option Node :=
  match ts with
  | [] => some empty
  | t :: _ =>
    if isPrologue t then
      (directives false [] ts).bind fun (handles, rest) =>
        match rest with
        | .documentStart :: rest => content? true handles rest
        | _ => none
    else content? false defaultHandles ts

/-! ## Anchors -/

mutual

/-- The nodes with an anchor, by number, in the order of the text. -/
def anchors : Node → List (Nat × Node)
  | .scalar .. => []
  | .alias _ => []
  | .sequence items => anchorsOfItems items
  | .mapping entries => anchorsOfEntries entries
  | .anchored number content => (number, content) :: anchors content
  | .tagged _ content => anchors content
termination_by structural n => n

/-- The nodes with an anchor among items. -/
def anchorsOfItems : List Node → List (Nat × Node)
  | [] => []
  | n :: ns => anchors n ++ anchorsOfItems ns
termination_by structural ns => ns

/-- The nodes with an anchor among entries. -/
def anchorsOfEntries : List (Node × Node) → List (Nat × Node)
  | [] => []
  | (k, v) :: es => anchors k ++ (anchors v ++ anchorsOfEntries es)
termination_by structural es => es

end

/-! ## Size -/

mutual

/-- The number of places where a part of a node begins or a collection ends. -/
def size : Node → Nat
  | .scalar .. => 1
  | .alias _ => 1
  | .sequence items => sizeOfItems items + 2
  | .mapping entries => sizeOfEntries entries + 2
  | .anchored _ content => size content
  | .tagged _ content => size content
termination_by structural n => n

/-- The size of items together. -/
def sizeOfItems : List Node → Nat
  | [] => 0
  | n :: ns => size n + sizeOfItems ns
termination_by structural ns => ns

/-- The size of entries together. -/
def sizeOfEntries : List (Node × Node) → Nat
  | [] => 0
  | (k, v) :: es => size k + (size v + sizeOfEntries es)
termination_by structural es => es

end

end Node

end StatementProfiles.Yaml
