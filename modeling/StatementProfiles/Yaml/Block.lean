import StatementProfiles.Yaml.Place

/-!
# Scalars in blocks

A literal block keeps its line breaks; in a folded block a single break between lines that begin with no white space
becomes a space. The header may say how far the block is indented and what becomes of the breaks at its end.
-/

namespace StatementProfiles.Yaml

namespace Block

/-- What becomes of the line breaks at the end of a block. -/
inductive Chomping where
  /-- The first one stays. -/
  | clip
  /-- None stays. -/
  | strip
  /-- All stay. -/
  | keep
deriving DecidableEq, Repr, Inhabited

/-- The header of a block. -/
structure Header where
  chomping : Chomping
  /-- How much further than its surroundings the block is indented, when the header says so. -/
  increment : Option Nat

/-- The chomping that a character asks for. -/
def chomping? (c : Char) : Option Chomping :=
  if c == '+' then some .keep else if c == '-' then some .strip else none

/-- The increment that a character asks for; zero is refused. -/
def increment? (c : Char) : Option Nat :=
  if '1' ≤ c && c ≤ '9' then some (c.toNat - '0'.toNat) else none

/-- The header and the characters behind it. -/
def header? : List Char → Option (Header × Nat)
  | c :: d :: _ =>
    match chomping? c, increment? c with
    | some ch, _ => if d == '0' then none else some (⟨ch, increment? d⟩, if (increment? d).isSome then 2 else 1)
    | none, some n => some (⟨(chomping? d).getD .clip, some n⟩, if (chomping? d).isSome then 2 else 1)
    | none, none => if c == '0' then none else some (⟨.clip, none⟩, 0)
  | [c] =>
    match chomping? c, increment? c with
    | some ch, _ => some (⟨ch, none⟩, 1)
    | none, some n => some (⟨.clip, some n⟩, 1)
    | none, none => if c == '0' then none else some (⟨.clip, none⟩, 0)
  | [] => some (⟨.clip, none⟩, 0)

/-- The empty lines ahead, as line breaks: those breaks, the widest indentation seen, and the cursor at the next line
that is not empty. Spaces up to the indentation are passed over, all of them when it is not known yet; a tab among them
is refused. -/
def emptyLines (indent : Option Nat) : List Char → Place → (widest : Nat) → (breaks : List Char) →
    Option (List Char × Nat × Cursor)
  | [], p, widest, breaks => some (breaks.reverse, max widest p.column, ⟨[], p⟩)
  | '\r' :: '\n' :: rest, p, widest, breaks =>
    emptyLines indent rest (p.nextLine 2) (max widest p.column) ('\n' :: breaks)
  | c :: rest, p, widest, breaks =>
    let isIndentation := match indent with
      | some n => decide (p.column < n)
      | none => true
    if c == ' ' && isIndentation then emptyLines indent rest (p.forward 1) widest breaks
    else if c == '\t' && isIndentation then none
    else if isBreak c then emptyLines indent rest (p.nextLine 1) (max widest p.column) (breakChar c :: breaks)
    else some (breaks.reverse, max widest p.column, ⟨c :: rest, p⟩)

/-- What is read of a block. -/
structure Reading where
  /-- The characters so far, backwards. -/
  text : List Char
  /-- The break at the end of the last line. -/
  ending : Option Char
  /-- The breaks of the empty lines behind it. -/
  empties : List Char
  /-- Whether the last line begins with white space. -/
  isSpaced : Bool
  cursor : Cursor

/-- The break at the end of a line as it stands in the text. -/
def Reading.joint (r : Reading) (isLiteral isSpacedNext : Bool) : List Char :=
  if !isLiteral && r.ending == some '\n' && !r.isSpaced && !isSpacedNext then
    if r.empties.isEmpty then [' '] else []
  else r.ending.toList

/-- The lines of a block, one a step. -/
def readLines (isLiteral : Bool) (indent : Nat) : (steps : Nat) → Reading → Option Reading
  | 0, r => some r
  | steps + 1, r =>
    match r.cursor.rest with
    | [] => some r
    | c :: _ =>
      if r.cursor.place.column ≠ indent then some r
      else
        let before := r.joint isLiteral (isSpace c) ++ r.empties
        let (line, eol) := r.cursor.span fun ch => !isBreak ch
        (emptyLines (some indent) eol.skipBreak.rest eol.skipBreak.place 0 []).bind fun (empties, _, next) =>
          readLines isLiteral indent steps
            ⟨line.reverse ++ (before.reverse ++ r.text), eol.rest.head?.map breakChar, empties, isSpace c, next⟩

/-- The text of a block after chomping. -/
def Reading.chomped (r : Reading) (c : Chomping) : List Char :=
  let text := r.text.reverse
  match c with
  | .strip => text
  | .clip => text ++ r.ending.toList
  | .keep => text ++ r.ending.toList ++ r.empties

/-- The characters of a block from behind its indicator. Its surroundings are indented by `outer`, or not at all. -/
def read (isLiteral : Bool) (outer : Option Nat) (c : Cursor) : Option (List Char × Cursor) :=
  (header? c.rest).bind fun (header, length) =>
  let eol := (c.forward length).skipSpaces.skipComment
  if !isBreakAhead eol.rest then none
  else
    let body := eol.skipBreak
    let stated := header.increment.map fun n => outer.getD 0 + n
    (emptyLines stated body.rest body.place 0 []).bind fun (breaks, widest, next) =>
    let least := match outer with
      | some n => n + 1
      | none => 1
    let indent := stated.getD (max widest least)
    (readLines isLiteral indent next.rest.length ⟨[], none, breaks, false, next⟩).map fun r =>
      (r.chomped header.chomping, r.cursor)

end Block

end StatementProfiles.Yaml
