import StatementProfiles.Yaml.Block
import StatementProfiles.Yaml.Flow
import StatementProfiles.Yaml.Name

/-!
# Reading tokens

`Lexer.tokens?` cuts a text into tokens. A key without a mark of its own (a simple key) is known for one only at the
colon behind it, so the lexer remembers where a key may have begun on each level of flow collections, and puts the `key`
token, and the start of the block mapping if it is the first, in front of what it has read since then.
-/

namespace StatementProfiles.Yaml

/-- Where a simple key may have begun. -/
structure KeyMark where
  /-- Whether nothing but a key may stand there. -/
  isRequired : Bool
  /-- The number of tokens before it. -/
  before : Nat
  cursor : Cursor
deriving DecidableEq, Repr, Inhabited

/-- A text that has been read in part. -/
structure Lexer where
  cursor : Cursor
  /-- The number of flow collections that are open. -/
  flowDepth : Nat
  /-- The columns of the block collections that are open, the innermost first. -/
  indents : List Nat
  /-- Whether a simple key may begin here. -/
  keyAllowed : Bool
  /-- The possible key of every level of flow collections, the innermost first. -/
  keys : List (Option KeyMark)
  /-- The tokens, the latest first. -/
  tokens : List Token
  /-- The number of tokens. -/
  count : Nat
deriving Repr, Inhabited

namespace Lexer

/-- The start of a text. -/
def start (cs : List Char) : Lexer :=
  { cursor := ⟨cs, .start⟩, flowDepth := 0, indents := [], keyAllowed := true, keys := [none]
    tokens := [], count := 0 }

/-- Whether a flow collection is open. -/
def inFlow (l : Lexer) : Bool := l.flowDepth != 0

/-- The column of the innermost block collection. -/
def indent? (l : Lexer) : Option Nat := l.indents.head?

/-- The column from which the further lines of a scalar may begin. -/
def scalarIndent (l : Lexer) : Nat :=
  match l.indent? with
  | some n => n + 1
  | none => 0

/-- The lexer with a token behind the others. -/
def push (l : Lexer) (t : Token) : Lexer := { l with tokens := t :: l.tokens, count := l.count + 1 }

/-- The lexer with a token behind the first `before` ones. -/
def insert (l : Lexer) (before : Nat) (t : Token) : Lexer :=
  let later := l.count - before
  { l with tokens := l.tokens.take later ++ t :: l.tokens.drop later, count := l.count + 1 }

/-- The lexer after `n` characters of the line. -/
def forward (l : Lexer) (n : Nat) : Lexer := { l with cursor := l.cursor.forward n }

/-! ## Indentation -/

/-- The lexer with the block collections closed that are indented further than a column, or all of them. -/
def closeBlocks (column : Option Nat) : List Nat → Lexer → Lexer
  | [], l => { l with indents := [] }
  | n :: rest, l =>
    let isInside := match column with
      | some c => decide (n ≤ c)
      | none => false
    if isInside then { l with indents := n :: rest } else closeBlocks column rest (l.push .blockEnd)

/-- The lexer with the block collections closed that a column is outside of; in flow collections there are none. -/
def unindent (l : Lexer) (column : Option Nat) : Lexer :=
  if l.inFlow then l else closeBlocks column l.indents l

/-- The lexer with a block collection opened at a column, unless it is open there. -/
def indentTo (l : Lexer) (column : Nat) (before : Nat) (t : Token) : Lexer :=
  if l.inFlow then l
  else if l.indent?.all fun n => n < column then { l.insert before t with indents := column :: l.indents }
  else l

/-! ## Simple keys -/

/-- The lexer without the possible key of this level; a key that had to be one is missing its colon. -/
def dropKey (l : Lexer) : Option Lexer :=
  match l.keys with
  | some k :: rest => if k.isRequired then none else some { l with keys := none :: rest }
  | _ => some l

/-- The lexer that remembers this place for a possible key. -/
def noteKey (l : Lexer) : Option Lexer :=
  if l.keyAllowed then
    let cursor := l.cursor
    l.dropKey.map fun l =>
      { l with keys := some ⟨!l.inFlow && l.indent? == some cursor.place.column, l.count, cursor⟩ :: l.keys.drop 1 }
  else some l

/-- The number of octets of a possible key and its indicator, at most. -/
def greatestKey : Nat := 1024

/-- The number of octets that characters take. -/
def octetLength (cs : List Char) : Nat := cs.foldl (fun n c => n + c.utf8Size) 0

/-- Whether a key that began at a place may still be one here: on the same line, and not too long. -/
def isFresh (here : Place) (k : KeyMark) : Bool :=
  let length := here.offset - k.cursor.place.offset
  k.cursor.place.line == here.line && length ≤ greatestKey && octetLength (k.cursor.rest.take length) ≤ greatestKey

/-- The possible keys without those that cannot be any more. -/
def freshKeys (here : Place) : List (Option KeyMark) → Option (List (Option KeyMark))
  | [] => some []
  | none :: rest => (freshKeys here rest).map (none :: ·)
  | some k :: rest =>
    if isFresh here k then (freshKeys here rest).map (some k :: ·)
    else if k.isRequired then none
    else (freshKeys here rest).map (none :: ·)

/-- The lexer at its next token, with the keys and block collections gone that end before it. -/
def atToken (l : Lexer) : Option Lexer :=
  let (cursor, allowed) := toToken l.inFlow false l.keyAllowed l.cursor.rest l.cursor.place
  (freshKeys cursor.place l.keys).map fun keys =>
    { l with cursor := cursor, keyAllowed := allowed, keys := keys }.unindent (some cursor.place.column)

/-! ## Tokens -/

/-- The lexer behind a document: no key is possible and all block collections are closed. -/
def endBlocks (l : Lexer) : Option Lexer := (l.unindent none).dropKey.map fun l => { l with keyAllowed := false }

/-- The lexer after a token that a key may begin with. -/
def lead (l : Lexer) (found : Option (Token × Cursor)) : Option Lexer :=
  found.bind fun (t, after) =>
    l.noteKey.map fun l => { l with keyAllowed := false, cursor := after }.push t

/-- The lexer after the start of a flow collection. -/
def openFlow (l : Lexer) (t : Token) : Option Lexer :=
  l.noteKey.map fun l =>
    ({ l with flowDepth := l.flowDepth + 1, keys := none :: l.keys, keyAllowed := true }.forward 1).push t

/-- The lexer after the end of a flow collection. -/
def closeFlow (l : Lexer) (t : Token) : Option Lexer :=
  l.dropKey.map fun l =>
    let keys := if l.inFlow then l.keys.drop 1 else l.keys
    ({ l with flowDepth := l.flowDepth - 1, keys := keys, keyAllowed := false }.forward 1).push t

/-- The lexer after a comma. -/
def flowEntry (l : Lexer) : Option Lexer :=
  l.dropKey.map fun l => ({ l with keyAllowed := true }.forward 1).push .flowEntry

/-- The lexer after the dash of an item. -/
def blockEntry (l : Lexer) : Option Lexer :=
  if !l.inFlow && !l.keyAllowed then none
  else (l.indentTo l.cursor.place.column l.count .blockSequenceStart).dropKey.map fun l =>
    ({ l with keyAllowed := true }.forward 1).push .blockEntry

/-- The lexer after the mark of a key. -/
def key (l : Lexer) : Option Lexer :=
  if !l.inFlow && !l.keyAllowed then none
  else (l.indentTo l.cursor.place.column l.count .blockMappingStart).dropKey.map fun l =>
    ({ l with keyAllowed := !l.inFlow }.forward 1).push .key

/-- The lexer after the colon of a value. -/
def value (l : Lexer) : Option Lexer :=
  match l.keys with
  | some k :: rest =>
    let l := (l.insert k.before .key).indentTo k.cursor.place.column k.before .blockMappingStart
    some (({ l with keys := none :: rest, keyAllowed := false }.forward 1).push .value)
  | _ =>
    if !l.inFlow && !l.keyAllowed then none
    else
      let l := l.indentTo l.cursor.place.column l.count .blockMappingStart
      some (({ l with keyAllowed := !l.inFlow }.forward 1).push .value)

/-- The lexer after a block of text. -/
def block (l : Lexer) (isLiteral : Bool) : Option Lexer :=
  l.dropKey.bind fun l => (Block.read isLiteral l.indent? (l.cursor.forward 1)).map fun (cs, after) =>
    let style := if isLiteral then .literal else .marked
    { l with keyAllowed := true, cursor := after }.push (.scalar style (String.ofList cs))

/-- A quoted scalar as a token. -/
def quoted (found : Option (List Char × Cursor)) : Option (Token × Cursor) :=
  found.map fun (cs, after) => (.scalar .marked (String.ofList cs), after)

/-- The lexer after a plain scalar; a key may follow line breaks behind it. -/
def plainScalar (l : Lexer) : Option Lexer :=
  (plain l.inFlow l.scalarIndent l.cursor.rest l.cursor.place .none []).bind fun (cs, after, isBroken) =>
    l.noteKey.map fun l => { l with keyAllowed := isBroken, cursor := after }.push (.scalar .plain (String.ofList cs))

/-- The lexer after the mark of a document's start or end. -/
def documentMark (l : Lexer) (t : Token) : Option Lexer := l.endBlocks.map fun l => (l.forward 3).push t

/-- The lexer after a directive. -/
def directive (l : Lexer) : Option Lexer :=
  l.endBlocks.bind fun l => (directive? (l.cursor.forward 1)).map fun (t, after) => { l with cursor := after }.push t

/-- Whether a plain scalar may begin with a character. -/
def beginsPlain (inFlow : Bool) (c : Char) (rest : List Char) : Bool :=
  !(isSpace c || isBreak c || "-?:,[]\x7b\x7d#&*!|>'\"%@`".toList.contains c)
    || (c == '-' && !(rest.head?.any isSpace))
    || (!inFlow && (c == '?' || c == ':') && !isSpaceAhead rest)

/-- The lexer after the token that begins with a character. -/
def step (l : Lexer) (c : Char) (rest : List Char) : Option Lexer :=
  let isMark := isSpaceAhead rest
  let after := l.cursor.forward 1
  if l.cursor.place.column == 0 && c == '%' then l.directive
  else if l.cursor.place.column == 0 && isDocumentMark (c :: rest) then
    l.documentMark (if c == '-' then .documentStart else .documentEnd)
  else if c == '[' then l.openFlow .flowSequenceStart
  else if c == '\x7b' then l.openFlow .flowMappingStart
  else if c == ']' then l.closeFlow .flowSequenceEnd
  else if c == '\x7d' then l.closeFlow .flowMappingEnd
  else if c == ',' then l.flowEntry
  else if c == '-' && isMark then l.blockEntry
  else if c == '?' && (l.inFlow || isMark) then l.key
  else if c == ':' && (l.inFlow || isMark) then l.value
  else if c == '*' then l.lead ((anchorName? after).map fun (name, after) => (.alias name, after))
  else if c == '&' then l.lead ((anchorName? after).map fun (name, after) => (.anchor name, after))
  else if c == '!' then l.lead (tag? l.inFlow l.cursor)
  else if c == '|' && !l.inFlow then l.block true
  else if c == '>' && !l.inFlow then l.block false
  else if c == '\'' then l.lead (quoted (singleQuoted after.rest after.place .none []))
  else if c == '"' then l.lead (quoted (doubleQuoted after.rest after.place .none []))
  else if beginsPlain l.inFlow c rest then l.plainScalar
  else none

/-- The lexer at the end of its text, one token a step. -/
def run : (steps : Nat) → Lexer → Option Lexer
  | 0, _ => none
  | steps + 1, l => l.atToken.bind fun l =>
    match l.cursor.rest with
    | [] => l.endBlocks
    | c :: rest => (l.step c rest).bind (run steps)

/-- The tokens of a text. -/
def tokens? (cs : List Char) : Option (List Token) :=
  (run (cs.length + 1) (start cs)).map fun l => l.tokens.reverse

end Lexer

/-- A character that a YAML text may hold. -/
def isPrintable (c : Char) : Bool :=
  let n := c.toNat
  n == 0x09 || n == 0x0A || n == 0x0D || (0x20 ≤ n && n ≤ 0x7E) || n == 0x85 || (0xA0 ≤ n && n ≤ 0xD7FF)
    || (0xE000 ≤ n && n ≤ 0xFFFD) || 0x10000 ≤ n

end StatementProfiles.Yaml
