import StatementProfiles.Yaml.Place

/-!
# Scalars on lines

Quoted and plain scalars may go over several lines. The white space around a line break is dropped; a single break
becomes a space, and of several breaks all but the first are kept (`Gap.text`).
-/

namespace StatementProfiles.Yaml

/-- The white space between two parts of a scalar. -/
structure Gap where
  /-- White space before any line break. -/
  spaces : List Char
  /-- Whether there is a line break. -/
  isBroken : Bool
  /-- The first line break. -/
  first : Option Char
  /-- The line breaks behind the first. -/
  more : List Char

namespace Gap

/-- No white space. -/
def none : Gap := ⟨[], false, Option.none, []⟩

/-- A line break that leaves no trace. -/
def escaped : Gap := ⟨[], true, Option.none, []⟩

/-- The gap with a space or a tab at its end. -/
def addSpace (g : Gap) (c : Char) : Gap := if g.isBroken then g else { g with spaces := g.spaces ++ [c] }

/-- The gap with a line break at its end. -/
def addBreak (g : Gap) (c : Char) : Gap :=
  if g.isBroken then { g with more := g.more ++ [c] } else ⟨[], true, some c, []⟩

/-- What a gap contributes to the scalar. -/
def text (g : Gap) : List Char :=
  if g.isBroken then
    match g.first with
    | some '\n' => if g.more.isEmpty then [' '] else g.more
    | some c => c :: g.more
    | Option.none => g.more
  else g.spaces

end Gap

/-! ## Quoted scalars -/

/-- The characters of a scalar in single quotes, from behind the opening one; `acc` are those so far, backwards. -/
def singleQuoted : List Char → Place → Gap → (acc : List Char) → Option (List Char × Cursor)
  | [], _, _, _ => none
  | '\r' :: '\n' :: rest, p, gap, acc => singleQuoted rest (p.nextLine 2) (gap.addBreak '\n') acc
  | '\'' :: '\'' :: rest, p, gap, acc =>
    singleQuoted rest (p.forward 2) .none ('\'' :: (gap.text.reverse ++ acc))
  | c :: rest, p, gap, acc =>
    if isBreak c then singleQuoted rest (p.nextLine 1) (gap.addBreak (breakChar c)) acc
    else if isSpace c then singleQuoted rest (p.forward 1) (gap.addSpace c) acc
    else if p.column == 0 && isDocumentMark (c :: rest) then none
    else
      let acc := gap.text.reverse ++ acc
      if c == '\'' then some (acc.reverse, ⟨rest, p.forward 1⟩)
      else singleQuoted rest (p.forward 1) .none (c :: acc)

/-- The character of a one-letter escape. -/
def escape? (c : Char) : Option Char :=
  match c with
  | '0' => some (Char.ofNat 0)
  | 'a' => some (Char.ofNat 7)
  | 'b' => some (Char.ofNat 8)
  | 't' | '\t' => some '\t'
  | 'n' => some '\n'
  | 'v' => some (Char.ofNat 11)
  | 'f' => some (Char.ofNat 12)
  | 'r' => some '\r'
  | 'e' => some (Char.ofNat 27)
  | ' ' | '"' | '/' | '\\' => some c
  | 'N' => some (Char.ofNat 0x85)
  | '_' => some (Char.ofNat 0xA0)
  | 'L' => some (Char.ofNat 0x2028)
  | 'P' => some (Char.ofNat 0x2029)
  | _ => none

/-- The number of digits of an escape by number. -/
def escapeDigits? (c : Char) : Option Nat :=
  match c with
  | 'x' => some 2
  | 'u' => some 4
  | 'U' => some 8
  | _ => none

/-- The character with a number. -/
def charOfNumber? (n : Nat) : Option Char := if h : n.isValidChar then some (Char.ofNatAux n h) else none

/-- The character that so many hexadecimal digits number. -/
def numberedChar? (count : Nat) (cs : List Char) : Option Char :=
  let ds := cs.take count
  if ds.length = count then (Text.hexDigits? ds).bind charOfNumber? else none

/-- The characters of a scalar in double quotes, from behind the opening one; `acc` are those so far, backwards. -/
def doubleQuoted (cs : List Char) (p : Place) (gap : Gap) (acc : List Char) : Option (List Char × Cursor) :=
  match cs with
  | [] => none
  | '\r' :: '\n' :: rest => doubleQuoted rest (p.nextLine 2) (gap.addBreak '\n') acc
  | '\\' :: '\r' :: '\n' :: rest => doubleQuoted rest ((p.forward 1).nextLine 2) .escaped (gap.text.reverse ++ acc)
  | c :: rest =>
    if isBreak c then doubleQuoted rest (p.nextLine 1) (gap.addBreak (breakChar c)) acc
    else if isSpace c then doubleQuoted rest (p.forward 1) (gap.addSpace c) acc
    else if p.column == 0 && isDocumentMark (c :: rest) then none
    else
      let acc := gap.text.reverse ++ acc
      if c == '"' then some (acc.reverse, ⟨rest, p.forward 1⟩)
      else if c == '\\' then
        match rest with
        | [] => none
        | e :: rest =>
          if isBreak e then doubleQuoted rest ((p.forward 1).nextLine 1) .escaped acc
          else match escape? e with
            | some ch => doubleQuoted rest (p.forward 2) .none (ch :: acc)
            | none => match escapeDigits? e with
              | none => none
              | some count => match numberedChar? count rest with
                | none => none
                | some ch => doubleQuoted (rest.drop count) (p.forward (2 + count)) .none (ch :: acc)
      else doubleQuoted rest (p.forward 1) .none (c :: acc)
termination_by cs.length
decreasing_by all_goals simp_all <;> omega

/-! ## Plain scalars -/

/-- An indicator of flow collections. -/
def isFlowIndicator (c : Char) : Bool := c == ',' || c == '[' || c == ']' || c == '\x7b' || c == '\x7d'

/-- Whether a plain scalar ends before this character. -/
def endsPlain (inFlow : Bool) (c : Char) (rest : List Char) : Bool :=
  (c == ':' && isSpaceAhead rest) || (inFlow && isFlowIndicator c)

/-- Whether a colon is glued to an indicator behind it, which no plain scalar of a flow collection may hold. -/
def isGluedColon (inFlow : Bool) (c : Char) (rest : List Char) : Bool :=
  inFlow && c == ':' && match rest with
    | d :: _ => isFlowIndicator d || d == '?'
    | [] => false

/-- What a plain scalar is read to: its characters, the cursor behind it, and whether line breaks follow it. -/
abbrev Plain := List Char × Cursor × Bool

/-- The characters of a plain scalar that is indented by at least `indent` on its further lines. White space behind it
is passed over; `acc` are the characters so far, backwards. -/
def plain (inFlow : Bool) (indent : Nat) : List Char → Place → Gap → (acc : List Char) → Option Plain
  | [], p, gap, acc => some (acc.reverse, ⟨[], p⟩, gap.isBroken)
  | '\r' :: '\n' :: rest, p, gap, acc => plain inFlow indent rest (p.nextLine 2) (gap.addBreak '\n') acc
  | c :: rest, p, gap, acc =>
    let stop : Option Plain := some (acc.reverse, ⟨c :: rest, p⟩, gap.isBroken)
    let isAfterGap := gap.isBroken || !gap.spaces.isEmpty
    if isBreak c then plain inFlow indent rest (p.nextLine 1) (gap.addBreak (breakChar c)) acc
    else if isSpace c then
      if gap.isBroken && p.column < indent && c == '\t' then none
      else plain inFlow indent rest (p.forward 1) (gap.addSpace c) acc
    else if isAfterGap && !inFlow && p.column < indent then stop
    else if p.column == 0 && isDocumentMark (c :: rest) then stop
    else if isAfterGap && c == '#' then stop
    else if isGluedColon inFlow c rest then none
    else if endsPlain inFlow c rest then stop
    else plain inFlow indent rest (p.forward 1) .none (c :: (gap.text.reverse ++ acc))

end StatementProfiles.Yaml
