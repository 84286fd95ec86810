import StatementProfiles.Yaml.Place
import StatementProfiles.Yaml.Tag
import StatementProfiles.Yaml.Token

/-!
# Anchors, tags and directives

The parts of a YAML text that are made of names: anchors and aliases, tags with their handles, and the directives in
front of a document.
-/

namespace StatementProfiles.Yaml

/-- A character that may stand behind an anchor. -/
def endsAnchor : List Char → Bool
  | [] => true
  | c :: _ => isSpace c || isBreak c || "?:,]\x7d%@`".toList.contains c

/-- The name of an anchor or alias, from behind its indicator. -/
def anchorName? (c : Cursor) : Option (String × Cursor) :=
  let (name, after) := c.span isNameChar
  if name.isEmpty || !endsAnchor after.rest then none else some (String.ofList name, after)

/-! ## Tags -/

/-- A character of a tag; some flow indicators stand only where the tag is in angle brackets or in a directive. -/
def isTagChar (isEnclosed : Bool) (c : Char) : Bool :=
  isNameChar c || ";/?:@&=+$.%!~*'()".toList.contains c || (isEnclosed && (c == ',' || c == '[' || c == ']'))

/-- The number of octets of the character that begins with an octet. -/
def octetCount? (lead : Nat) : Option Nat :=
  if lead < 0x80 then some 1
  else if 0xC0 ≤ lead && lead < 0xE0 then some 2
  else if 0xE0 ≤ lead && lead < 0xF0 then some 3
  else if 0xF0 ≤ lead && lead < 0xF8 then some 4
  else none

/-- The octets of the characters of a tag, where `%` and two digits stand for an octet; `owed` octets are still to come
of a character that began so. -/
def tagOctets? : (owed : Nat) → List Char → Option (List UInt8)
  | owed, [] => if owed = 0 then some [] else none
  | owed, '%' :: a :: b :: rest =>
    (Text.hexDigits? [a, b]).bind fun n =>
    (if owed = 0 then (octetCount? n).map (· - 1) else if 0x80 ≤ n && n < 0xC0 then some (owed - 1) else none).bind
      fun owed => (tagOctets? owed rest).map (UInt8.ofNat n :: ·)
  | owed, c :: rest =>
    if c == '%' || owed ≠ 0 then none else (tagOctets? 0 rest).map (UInt8.ofNat c.toNat :: ·)

/-- The characters of a tag: whether there are none, and their octets up to the first zero. -/
def tagText? (c : Cursor) (isEnclosed : Bool) : Option (Bool × List UInt8 × Cursor) :=
  let (chars, after) := c.span (isTagChar isEnclosed)
  (tagOctets? 0 chars).map fun octets => (chars.isEmpty, untilZero octets, after)

/-- A handle: `!`, `!!` or `!name!`; without the second mark it is the beginning of a tag. -/
def handle? (c : Cursor) : Option (String × Cursor) :=
  match c.rest with
  | '!' :: _ =>
    let (name, after) := (c.forward 1).span isNameChar
    if after.rest.head? == some '!' then some (String.ofList ('!' :: name ++ ['!']), after.forward 1)
    else some (String.ofList ('!' :: name), after)
  | _ => none

/-- Whether a handle ends with its second mark. -/
def isClosedHandle (handle : String) : Bool := 1 < handle.length && handle.toList.getLast? == some '!'

/-- A tag in angle brackets, from behind `!<`. -/
def enclosedTag? (c : Cursor) : Option (Token × Cursor) :=
  (tagText? c true).bind fun (isEmpty, octets, after) =>
    if isEmpty || after.rest.head? != some '>' then none else some (.tag "" octets, after.forward 1)

/-- A tag with a handle. -/
def handledTag? (c : Cursor) : Option (Token × Cursor) :=
  (handle? c).bind fun (handle, after) =>
  (tagText? after false).bind fun (isEmpty, octets, after) =>
    if isClosedHandle handle then if isEmpty then none else some (.tag handle octets, after)
    else
      let rest := (handle.toList.drop 1).map (fun c => UInt8.ofNat c.toNat) ++ octets
      some (if rest.isEmpty then .tag "" [0x21] else .tag "!" rest, after)

/-- The tag at its first mark. -/
def tag? (inFlow : Bool) (c : Cursor) : Option (Token × Cursor) :=
  let found := match c.rest with
    | '!' :: '<' :: _ => enclosedTag? (c.forward 2)
    | _ => handledTag? c
  found.filter fun t => isSpaceAhead t.2.rest || (inFlow && t.2.rest.head? == some ',')

/-! ## Directives -/

/-- A number of one to nine digits. -/
def versionNumber? (c : Cursor) : Option (Nat × Cursor) :=
  let (ds, after) := c.span Text.isDigit
  if ds.isEmpty || 9 < ds.length then none else some (Text.digitsValue ds, after)

/-- The version that a directive states. -/
def versionDirective? (c : Cursor) : Option (Token × Cursor) :=
  (versionNumber? c.skipSpaces).bind fun (major, after) =>
    if after.rest.head? != some '.' then none
    else (versionNumber? (after.forward 1)).map fun (minor, after) => (.version major minor, after)

/-- The handle that a directive defines. -/
def handleDirective? (c : Cursor) : Option (Token × Cursor) :=
  (handle? c.skipSpaces).bind fun (name, after) =>
    if !(isClosedHandle name || name == "!") || !(after.rest.head?.any isSpace) then none
    else (tagText? after.skipSpaces true).bind fun (isEmpty, octets, after) =>
      if isEmpty || !isSpaceAhead after.rest then none else some (.handle name octets, after)

/-- The directive from behind its mark, to the end of its line. -/
def directive? (c : Cursor) : Option (Token × Cursor) :=
  let (name, after) := c.span isNameChar
  if !isSpaceAhead after.rest then none
  else
    let found := match String.ofList name with
      | "YAML" => versionDirective? after
      | "TAG" => handleDirective? after
      | _ => none
    found.bind fun (t, after) =>
      let eol := after.skipSpaces.skipComment
      if isBreakAhead eol.rest then some (t, eol.skipBreak) else none

end StatementProfiles.Yaml
