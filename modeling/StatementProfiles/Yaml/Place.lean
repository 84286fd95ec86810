import StatementProfiles.Text.Blank

/-!
# Places in a YAML text

Characters that end lines, and the count of characters, lines and columns before a character.
-/

namespace StatementProfiles.Yaml

/-- A space or a tab. -/
def isSpace (c : Char) : Bool := c == ' ' || c == '\t'

/-- A character that ends a line. -/
def isBreak (c : Char) : Bool :=
  let n := c.toNat
  n == 0x0A || n == 0x0D || n == 0x85 || n == 0x2028 || n == 0x2029

/-- The character that stands for a line break in scalars. -/
def breakChar (c : Char) : Char := if c.toNat == 0x2028 || c.toNat == 0x2029 then c else '\n'

/-- Whether the characters begin with white space, a line break or the end of the text. -/
def isSpaceAhead : List Char → Bool
  | [] => true
  | c :: _ => isSpace c || isBreak c

/-- Whether the characters begin with a line break or the end of the text. -/
def isBreakAhead : List Char → Bool
  | [] => true
  | c :: _ => isBreak c

/-- A character of a name. -/
def isNameChar (c : Char) : Bool :=
  ('0' ≤ c && c ≤ '9') || ('A' ≤ c && c ≤ 'Z') || ('a' ≤ c && c ≤ 'z') || c == '_' || c == '-'

/-- Whether a line begins with the mark of a document's start or end. -/
def isDocumentMark : List Char → Bool
  | '-' :: '-' :: '-' :: rest => isSpaceAhead rest
  | '.' :: '.' :: '.' :: rest => isSpaceAhead rest
  | _ => false

/-- What is counted before a character. -/
structure Place where
  offset : Nat
  line : Nat
  column : Nat
deriving DecidableEq, Repr, Inhabited

namespace Place

/-- The start of a text. -/
def start : Place := ⟨0, 0, 0⟩

/-- The place after `n` characters of the line. -/
def forward (p : Place) (n : Nat) : Place := ⟨p.offset + n, p.line, p.column + n⟩

/-- The place after a line break of `n` characters. -/
def nextLine (p : Place) (n : Nat) : Place := ⟨p.offset + n, p.line + 1, 0⟩

end Place

/-- What is left of a text, and its place. -/
structure Cursor where
  rest : List Char
  place : Place
deriving DecidableEq, Repr, Inhabited

namespace Cursor

/-- The cursor after `n` characters of the line. -/
def forward (c : Cursor) (n : Nat) : Cursor := ⟨c.rest.drop n, c.place.forward n⟩

/-- The characters up to the first that fails the test, and the cursor there; none of them ends a line. -/
def span (c : Cursor) (test : Char → Bool) : List Char × Cursor :=
  let taken := c.rest.takeWhile test
  (taken, ⟨c.rest.dropWhile test, c.place.forward taken.length⟩)

/-- The cursor after spaces and tabs. -/
def skipSpaces (c : Cursor) : Cursor := (c.span isSpace).2

/-- The cursor at the end of the line when a comment begins, and as it is otherwise. -/
def skipComment (c : Cursor) : Cursor :=
  if c.rest.head? == some '#' then (c.span fun ch => !isBreak ch).2 else c

/-- The cursor after a line break, if there is one. -/
def skipBreak (c : Cursor) : Cursor :=
  match c.rest with
  | '\r' :: '\n' :: rest => ⟨rest, c.place.nextLine 2⟩
  | ch :: rest => if isBreak ch then ⟨rest, c.place.nextLine 1⟩ else c
  | [] => c

end Cursor

/-- The cursor at the next token, and whether a simple key may stand there. White space, comments and line breaks are
passed over; a line break allows keys outside of flow collections. A tab is white space only where no key may stand. -/
def toToken (inFlow : Bool) : (inComment keyAllowed : Bool) → List Char → Place → Cursor × Bool
  | _, allowed, [], p => (⟨[], p⟩, allowed)
  | _, allowed, '\r' :: '\n' :: rest, p => toToken inFlow false (allowed || !inFlow) rest (p.nextLine 2)
  | inComment, allowed, c :: rest, p =>
    if isBreak c then toToken inFlow false (allowed || !inFlow) rest (p.nextLine 1)
    else if inComment then toToken inFlow true allowed rest (p.forward 1)
    else if c == ' ' || (c == '\t' && (inFlow || !allowed)) || (c.toNat == 0xFEFF && p.column == 0) then
      toToken inFlow false allowed rest (p.forward 1)
    else if c == '#' then toToken inFlow true allowed rest (p.forward 1)
    else (⟨c :: rest, p⟩, allowed)

end StatementProfiles.Yaml
