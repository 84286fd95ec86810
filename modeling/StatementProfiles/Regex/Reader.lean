import StatementProfiles.Regex.Size
import StatementProfiles.Text.Named

/-!
# Reading regular expressions

`Regex.parse?` reads the notation: alternatives with `|`, repetitions `* + ? \x7bm,n\x7d` (a `?` behind them changes no
match), groups, sets in brackets, anchors, escapes, and flags in groups. A text that is not of the notation gives
nothing, and neither does an expression whose parts are nested too deep or that is too large.
-/

namespace StatementProfiles

namespace Regex

/-! ## Flags -/

/-- The flags in force. -/
structure Flags where
  anyCase : Bool
  multiLine : Bool
  dotAll : Bool
  /-- A carriage return with a line feed is one end of a line. -/
  paired : Bool
  /-- Blanks and comments between the parts do not count. -/
  spaced : Bool
  /-- Sets hold ASCII characters only. -/
  ascii : Bool
deriving Repr, Inhabited

/-- The flags at the start of an expression. -/
def Flags.initial : Flags := ⟨false, false, false, false, false, false⟩

/-- A flag switched on or off. -/
def Flags.switch? (f : Flags) (on : Bool) : Char → Option Flags
  | 'i' => some { f with anyCase := on }
  | 'm' => some { f with multiLine := on }
  | 's' => some { f with dotAll := on }
  | 'R' => some { f with paired := on }
  | 'x' => some { f with spaced := on }
  | 'u' => some { f with ascii := !on }
  | 'U' => some f
  | _ => none

/-- The flags of a group up to its colon or closing parenthesis. A letter stands once, and so does the hyphen in front
of the letters that are switched off; there is at least one of them behind it. -/
def flags? (f : Flags) (seen : List Char) : List Char → Option (Flags × List Char)
  | [] => none
  | ':' :: rest => if seen.head? == some '-' then none else some (f, ':' :: rest)
  | ')' :: rest => if seen.isEmpty || seen.head? == some '-' then none else some (f, ')' :: rest)
  | c :: rest =>
    if seen.contains c then none
    else if c == '-' then flags? f ('-' :: seen) rest
    else (f.switch? (!seen.contains '-') c).bind fun f' => flags? f' (c :: seen) rest

/-- The rest without blanks and comments; `inComment` says that a comment has been opened. -/
def withoutBlanks (inComment : Bool) : List Char → List Char
  | [] => []
  | c :: rest =>
    if inComment then withoutBlanks (c != '\n') rest
    else if isBlank c then withoutBlanks false rest
    else if c == '#' then withoutBlanks true rest
    else c :: rest

/-- The rest behind what does not count. -/
def Flags.skip (f : Flags) (cs : List Char) : List Char := if f.spaced then withoutBlanks false cs else cs

/-- The character behind the first one, past blanks and one mark of a comment where they do not count. -/
def Flags.peek (f : Flags) (cs : List Char) : Option Char :=
  if f.spaced then
    match (cs.drop 1).dropWhile isBlank with
    | '#' :: rest => (rest.dropWhile isBlank).head?
    | rest => rest.head?
  else (cs.drop 1).head?

/-- The set in the case that the flags ask for. Where sets hold ASCII characters only, other characters have no
variants. -/
def Flags.cased (f : Flags) (s : CharSet) : CharSet :=
  let ascii : CharSet := .range (Char.ofNat 0) (Char.ofNat 127)
  if !f.anyCase then s
  else if f.ascii then .union s (.inter (.anyCase (.inter s ascii)) ascii)
  else .anyCase s

/-! ## Numbers and code points -/

/-- Digits that fit, as many as there are. -/
def digitsWhere (f : Flags) (fits : Char → Bool) : Nat → List Char → List Char × List Char
  | 0, cs => ([], cs)
  | _, [] => ([], [])
  | n + 1, c :: cs =>
    if fits c then
      let (ds, rest) := digitsWhere f fits n (f.skip cs)
      (c :: ds, rest)
    else ([], c :: cs)

/-- A decimal number below `2 ^ 32`, with blanks around it. -/
def number? (f : Flags) (cs : List Char) : Option (Nat × List Char) :=
  let start := cs.dropWhile isBlank
  let (ds, rest) := digitsWhere f Text.isDigit start.length start
  let tail := rest.dropWhile isBlank
  let n := Text.digitsValue ds
  if ds.isEmpty || n > 0xFFFFFFFF then none
  else some (n, if tail.length < rest.length then f.skip tail else rest)

/-- The bounds of a counted repetition behind its opening brace. -/
def bounds? (f : Flags) (cs : List Char) : Option (Nat × Option Nat × List Char) :=
  (number? f (f.skip cs)).bind fun (least, rest) =>
    match rest with
    | '\x7d' :: tail => some (least, some least, tail)
    | ',' :: more =>
      match f.skip more with
      | '\x7d' :: tail => some (least, none, tail)
      | more => (number? f more).bind fun (most, after) =>
        match after with
        | '\x7d' :: tail => if least ≤ most then some (least, some most, tail) else none
        | _ => none
    | _ => none

/-- The character of a code point that hexadecimal digits write. -/
def hexChar? (ds : List Char) : Option Char :=
  if ds.isEmpty then none
  else (Text.hexDigits? ds).bind fun n =>
    if n < 0xD800 || (0xE000 ≤ n && n ≤ 0x10FFFF) then some (Char.ofNat n) else none

/-- Whether a character is a hexadecimal digit. -/
def isHexDigit (c : Char) : Bool := (Text.hexValue? c).isSome

/-- A character written by its code point: in braces, or with a number of digits. -/
def codePoint? (f : Flags) (digits : Nat) (cs : List Char) : Option (Char × List Char) :=
  match f.skip cs with
  | '\x7b' :: rest =>
    let body := f.skip rest
    let (ds, after) := digitsWhere f isHexDigit body.length body
    match after with
    | '\x7d' :: tail => (hexChar? ds).map fun c => (c, tail)
    | _ => none
  | body =>
    let (ds, tail) := digitsWhere f isHexDigit digits body
    if ds.length = digits then (hexChar? ds).map fun c => (c, tail) else none

/-! ## Escapes -/

/-- What an escape stands for: a character, a set of characters, or an anchor. -/
inductive Escape where
  | char (c : Char)
  | set (s : CharSet)
  | anchor (a : Anchor)

/-- Whether an escaped character stands for itself: the ASCII characters that are neither letters nor digits. -/
def isEscapable (c : Char) : Bool := c.toNat < 128 && !c.isAlphanum && c != '<' && c != '>'

/-- The characters of words. -/
def Flags.letters (f : Flags) : CharSet :=
  if f.ascii then .unions [.range 'a' 'z', .range 'A' 'Z', .range '0' '9', .single '_'] else .wordChars

/-- The decimal digits. -/
def Flags.digits (f : Flags) : CharSet := if f.ascii then .range '0' '9' else .digits

/-- White space. -/
def Flags.blanks (f : Flags) : CharSet := if f.ascii then .unions [.range '\t' '\r', .single ' '] else .blanks

/-- A complement; there is none where sets hold ASCII characters only. -/
def Flags.complement? (f : Flags) (s : CharSet) : Option CharSet := if f.ascii then none else some (.complement s)

/-- The anchor of an edge of a word. -/
def Flags.edge (f : Flags) (e : WordEdge) : Escape := .anchor (.word e f.letters)

/-- The characters of a text in braces, or of one character, that names a property; and the rest. -/
def propertyText? (f : Flags) (cs : List Char) : Option (List Char × List Char) :=
  match f.skip cs with
  | '\x7b' :: rest =>
    let (name, after) := digitsWhere f (· ≠ '\x7d') rest.length (f.skip rest)
    match after with
    | _ :: tail => some (name, tail)
    | [] => none
  | '\\' :: _ => none
  | c :: rest => some ([c], rest)
  | [] => none

/-- The pieces in front of and behind the first occurrence of a separator. -/
def cutAt? (separator : List Char) : List Char → Option (List Char × List Char)
  | [] => none
  | c :: rest =>
    if separator.isPrefixOf (c :: rest) then some ([], (c :: rest).drop separator.length)
    else (cutAt? separator rest).map fun (front, behind) => (c :: front, behind)

/-- The set that the text of a property means, and whether the text asks for the other characters. -/
def property? (text : List Char) : Option (CharSet × Bool) :=
  match cutAt? ['!', '='] text with
  | some (kind, value) => (CharSet.ofValue? kind value).map fun s => (s, true)
  | none =>
    match (cutAt? [':'] text).or (cutAt? ['='] text) with
    | some (kind, value) => (CharSet.ofValue? kind value).map fun s => (s, false)
    | none => (CharSet.ofName? text).map fun s => (s, false)

/-- A property behind `p`, or behind `P`, which negates it. -/
def propertyEscape? (f : Flags) (negated : Bool) (cs : List Char) : Option (Escape × List Char) :=
  if f.ascii then none
  else (propertyText? f cs).bind fun (text, rest) =>
    (property? text).map fun (s, other) =>
      (.set (if negated != other then .complement (f.cased s) else f.cased s), rest)

/-- The word in braces behind `b` that says which edge is meant: nothing if what follows is no such word. -/
def edgeWord? (f : Flags) (cs : List Char) : Option (List Char × List Char) :=
  let isPart (c : Char) : Bool := c.isAlpha || c == '-'
  match cs with
  | '\x7b' :: rest =>
    let body := f.skip rest
    if (body.head?.map isPart).getD false then some (digitsWhere f isPart body.length body) else none
  | _ => none

/-- The edge behind `b`: any edge of a word, or the one that a word in braces names. -/
def boundary? (f : Flags) (cs : List Char) : Option (Escape × List Char) :=
  match edgeWord? f cs with
  | none => some (f.edge .any, cs)
  | some (word, after) =>
    match after with
    | '\x7d' :: tail =>
      match String.ofList word with
      | "start" => some (f.edge .start, tail)
      | "end" => some (f.edge .finish, tail)
      | "start-half" => some (f.edge .notBehind, tail)
      | "end-half" => some (f.edge .notInFront, tail)
      | _ => none
    | _ => none

/-- The escape behind a backslash. -/
def escape? (f : Flags) : List Char → Option (Escape × List Char)
  | 'd' :: rest => some (.set f.digits, rest)
  | 'D' :: rest => (f.complement? f.digits).map fun s => (.set s, rest)
  | 'w' :: rest => some (.set f.letters, rest)
  | 'W' :: rest => (f.complement? f.letters).map fun s => (.set s, rest)
  | 's' :: rest => some (.set f.blanks, rest)
  | 'S' :: rest => (f.complement? f.blanks).map fun s => (.set s, rest)
  | 'p' :: rest => propertyEscape? f false rest
  | 'P' :: rest => propertyEscape? f true rest
  | 'b' :: rest => boundary? f rest
  | 'B' :: rest => some (f.edge .none, rest)
  | '<' :: rest => some (f.edge .start, rest)
  | '>' :: rest => some (f.edge .finish, rest)
  | 'A' :: rest => some (.anchor .textStart, rest)
  | 'z' :: rest => some (.anchor .textEnd, rest)
  | 'n' :: rest => some (.char '\n', rest)
  | 't' :: rest => some (.char '\t', rest)
  | 'r' :: rest => some (.char '\r', rest)
  | 'a' :: rest => some (.char (Char.ofNat 7), rest)
  | 'f' :: rest => some (.char (Char.ofNat 12), rest)
  | 'v' :: rest => some (.char (Char.ofNat 11), rest)
  | 'x' :: rest => (codePoint? f 2 rest).bind fun (c, tail) =>
    if f.ascii && c.toNat ≥ 128 && (f.skip rest).head? != some '\x7b' then none else some (.char c, tail)
  | 'u' :: rest => (codePoint? f 4 rest).map fun (c, tail) => (.char c, tail)
  | 'U' :: rest => (codePoint? f 8 rest).map fun (c, tail) => (.char c, tail)
  | c :: rest => if isEscapable c then some (.char c, rest) else none
  | [] => none

/-! ## Sets in brackets -/

/-- The named ASCII classes. -/
def namedClass? : String → Option CharSet
  | "alpha" => some (.union (.range 'a' 'z') (.range 'A' 'Z'))
  | "digit" => some (.range '0' '9')
  | "alnum" => some (CharSet.unions [.range 'a' 'z', .range 'A' 'Z', .range '0' '9'])
  | "upper" => some (.range 'A' 'Z')
  | "lower" => some (.range 'a' 'z')
  | "space" => some (CharSet.unions [.range '\t' '\r', .single ' '])
  | "blank" => some (.union (.single ' ') (.single '\t'))
  | "punct" => some (CharSet.unions [.range '!' '/', .range ':' '@', .range '[' (Char.ofNat 0x60), .range '\x7b' '~'])
  | "word" => some (CharSet.unions [.range 'a' 'z', .range 'A' 'Z', .range '0' '9', .single '_'])
  | "xdigit" => some (CharSet.unions [.range 'a' 'f', .range 'A' 'F', .range '0' '9'])
  | "print" => some (.range ' ' '~')
  | "graph" => some (.range '!' '~')
  | "cntrl" => some (.union (.range (Char.ofNat 0) (Char.ofNat 31)) (.single (Char.ofNat 127)))
  | "ascii" => some (.range (Char.ofNat 0) (Char.ofNat 127))
  | _ => none

/-- A named class behind its opening `[:`; whether it is negated. -/
def named? (cs : List Char) : Option (CharSet × Bool × List Char) :=
  let negated := cs.head? == some '^'
  let body := if negated then cs.drop 1 else cs
  let name := body.takeWhile (· ≠ ':')
  match body.drop name.length with
  | ':' :: ']' :: tail => (namedClass? (String.ofList name)).map fun s => (s, negated, tail)
  | _ => none

/-- A single member of a set, or one end of a range. -/
def member? (f : Flags) : List Char → Option (Escape × List Char)
  | '\\' :: rest => escape? f rest
  | c :: rest => some (.char c, rest)
  | [] => none

/-- The set of a range; where sets hold ASCII characters only, so do its ends. -/
def between? (f : Flags) (low high : Char) : Option CharSet :=
  if low ≤ high && !(f.ascii && high.toNat ≥ 128) then some (.range low high) else none

/-- The set of a member that is no end of a range. -/
def memberSet? (f : Flags) : Escape → Option CharSet
  | .char c => between? f c c
  | .set s => some s
  | .anchor _ => none

/-- The next member, or a range of characters; a hyphen in front of the closing bracket or of another hyphen makes no
range. -/
def range? (f : Flags) (cs : List Char) : Option (CharSet × List Char) :=
  (member? f cs).bind fun (low, afterLow) =>
    let rest := f.skip afterLow
    if rest.head? != some '-' || f.peek rest == some ']' || f.peek rest == some '-' then
      (memberSet? f low).map fun s => (s, rest)
    else (member? f (f.skip (rest.drop 1))).bind fun (high, after) =>
      match low, high with
      | .char a, .char b => (between? f a b).map fun s => (s, after)
      | _, _ => none

/-- The number of hyphens at the start of a set, which stand for themselves, and the rest. -/
def hyphens (f : Flags) : Nat → List Char → Nat × List Char
  | 0, cs => (0, cs)
  | fuel + 1, cs =>
    match cs with
    | '-' :: rest =>
      let (n, after) := hyphens f fuel (f.skip rest)
      (n + 1, after)
    | _ => (0, cs)

/-- Several members of a set: their characters, how many they are, and how deep sets in brackets are nested in them. -/
structure Members where
  set : CharSet
  count : Nat
  depth : Nat

/-- Members of which none holds a set in brackets. -/
def Members.plain (s : CharSet) (count : Nat) : Members := ⟨s, count, 0⟩

/-- One more member. -/
def Members.add (m : Members) (s : CharSet) (depth : Nat) : Members :=
  ⟨.union m.set s, m.count + 1, max m.depth depth⟩

/-- How deep the members are nested: several members are one level deeper than a single one. -/
def Members.level (m : Members) : Nat := if m.count ≤ 1 then m.depth else m.depth + 1

/-- What was read of a set in brackets: a left side with the operation on it and the right side, how deep the left side
is nested when there is one, and the members behind the operation. -/
structure Pending where
  combine : CharSet → CharSet
  left : Option Nat
  members : Members

/-- The set so far. -/
def Pending.set (p : Pending) : CharSet := p.combine p.members.set

/-- How deep the set so far is nested: an operation is one level above its sides. -/
def Pending.level (p : Pending) : Nat :=
  match p.left with
  | none => p.members.level
  | some left => max left p.members.level + 1

/-- One more member. -/
def Pending.add (p : Pending) (s : CharSet) (depth : Nat) : Pending := { p with members := p.members.add s depth }

/-- The set so far as the left side of an operation. -/
def Pending.operate (p : Pending) (f : Flags) (operation : CharSet → CharSet → CharSet) : Pending :=
  ⟨fun right => operation (f.cased p.set) (f.cased right), some p.level, .plain .none 0⟩

mutual

/-- The members of a set in brackets, up to the closing one: the set, how deep it is nested, and the rest. -/
def members? (f : Flags) : Nat → Pending → List Char → Option (CharSet × Nat × List Char)
  | 0, _, _ => none
  | fuel + 1, p, cs =>
    match f.skip cs with
    | [] => none
    | ']' :: rest => some (p.set, p.level, rest)
    | '[' :: rest =>
      match (if rest.head? == some ':' then named? (rest.drop 1) else none) with
      | some (s, negated, tail) =>
        (if negated then f.complement? (f.cased s) else some (f.cased s)).bind fun s => members? f fuel (p.add s 0) tail
      | none => (bracket? f fuel rest).bind fun (s, depth, tail) => members? f fuel (p.add s depth) tail
    | '&' :: '&' :: rest => members? f fuel (p.operate f .inter) rest
    | '-' :: '-' :: rest => members? f fuel (p.operate f .diff) rest
    | '~' :: '~' :: rest => members? f fuel (p.operate f .symmDiff) rest
    | cs => (range? f cs).bind fun (s, rest) => members? f fuel (p.add s 0) rest

/-- A set behind its opening bracket, with the levels of brackets in it and around it. A closing bracket at its start
stands for itself. -/
def bracket? (f : Flags) : Nat → List Char → Option (CharSet × Nat × List Char)
  | 0, _ => none
  | fuel + 1, cs =>
    let start := f.skip cs
    let negated := start.head? == some '^'
    let body := if negated then f.skip (start.drop 1) else start
    let (first, rest) :=
      match body with
      | ']' :: tail => (Members.plain (.single ']') 1, f.skip tail)
      | _ =>
        let (n, after) := hyphens f body.length body
        (Members.plain (if n = 0 then .none else .single '-') n, after)
    (members? f fuel ⟨id, none, first⟩ rest).bind fun (s, level, tail) =>
      (if negated then f.complement? (f.cased s) else some (f.cased s)).map fun s => (s, level + 1, tail)

end

/-! ## Parts -/

/-- A part of an expression, and how deep its own parts are nested. -/
structure Part where
  regex : Regex
  depth : Nat

/-- The greatest depth of the parts of an expression. -/
def greatestDepth : Nat := 250

/-- What stands in a sequence: a part, or a setting of flags, which cannot be repeated. -/
inductive Item where
  | part (p : Part)
  | setting

/-- The expression of an item; a setting has none. -/
def Item.regex? : Item → Option Regex
  | .part p => some p.regex
  | .setting => none

/-- The depth of an item. -/
def Item.depth : Item → Nat
  | .part p => p.depth
  | .setting => 0

/-- Expressions one after another, the last first. -/
def inSequence : List Regex → Regex
  | [] => .empty
  | r :: earlier => earlier.foldl (fun later r => .both r later) r

/-- Items one after another, the last first; a single one is not nested. -/
def Part.sequence (items : List Item) : Part :=
  let depth := items.foldl (fun n item => max n item.depth) 0
  ⟨inSequence (items.filterMap Item.regex?), if items.length ≤ 1 then depth else depth + 1⟩

/-- A single alternative is not nested. -/
def Part.choice : List Part → Part
  | [] => ⟨.empty, 0⟩
  | [p] => p
  | p :: rest => ⟨rest.foldl (fun r q => .either r q.regex) p.regex, rest.foldl (fun n q => max n q.depth) p.depth + 1⟩

/-- A part one level deeper, in parentheses or repeated. -/
def Part.nested (p : Part) (f : Regex → Regex) : Part := ⟨f p.regex, p.depth + 1⟩

/-- The last part read, repeated. -/
def repeated? (least : Nat) (most : Option Nat) : List Item → Option (List Item)
  | .part p :: done => some (.part (p.nested fun r => .times r least most) :: done)
  | _ => none

/-- The rest without a mark of reluctance. -/
def dropReluctance : List Char → List Char
  | '?' :: rest => rest
  | cs => cs

/-- Whether a character may stand in the name of a group, at its start or behind it. -/
def isNamePart (first : Bool) (c : Char) : Bool :=
  c == '_' || CharSet.letters.contains c
    || (!first && (c == '.' || c == '[' || c == ']' || CharSet.numbers.contains c))

/-- Whether the characters are a name of a group. -/
def isGroupName : List Char → Bool
  | [] => false
  | c :: rest => isNamePart true c && rest.all (isNamePart false)

/-- The name of a group up to its closing bracket; no two groups have one name. -/
def groupName? (names : List (List Char)) (cs : List Char) : Option (List (List Char) × List Char) :=
  let name := cs.takeWhile (· ≠ '>')
  match cs.drop name.length with
  | _ :: rest => if isGroupName name && !names.contains name then some (name :: names, rest) else none
  | [] => none

/-- What an opening parenthesis starts: a group with flags of its own, which is kept apart or not, or a setting of
flags. -/
inductive Opening where
  | group (inside : Flags) (isKept : Bool)
  | setting (f : Flags)

/-- The opening of a group behind its parenthesis. -/
def opening? (f : Flags) (names : List (List Char)) (cs : List Char) :
    Option (Opening × List (List Char) × List Char) :=
  match f.skip cs with
  | '?' :: 'P' :: '<' :: rest => (groupName? names rest).map fun (names, tail) => (.group f true, names, tail)
  | '?' :: '<' :: rest => (groupName? names rest).map fun (names, tail) => (.group f true, names, tail)
  | '?' :: rest => (flags? f [] rest).map fun (f', after) =>
    (if after.head? == some ':' then .group f' false else .setting f', names, after.drop 1)
  | rest => some (.group f true, names, rest)

/-- The set of a dot: any character, or any that ends no line. There is none where sets hold ASCII characters only. -/
def dot? (f : Flags) : Option CharSet :=
  f.complement? (if f.dotAll then .none else if f.paired then .union (.single '\n') (.single '\r') else .single '\n')

/-- The part of an escape. -/
def escapePart (f : Flags) : Escape → Part
  | .char c => ⟨.char (f.cased (.single c)), 0⟩
  | .set s => ⟨.char s, 0⟩
  | .anchor a => ⟨.anchor a, 0⟩

/-- The anchor of a circumflex. -/
def startAnchor (f : Flags) : Anchor := if f.multiLine then .lineStart f.paired else .textStart

/-- The anchor of a dollar sign. -/
def endAnchor (f : Flags) : Anchor := if f.multiLine then .lineEnd f.paired else .textEnd

mutual

/-- Alternatives up to a closing parenthesis or the end, behind those of `done`, the last first. -/
def alternatives? : Nat → Flags → List (List Char) → List Part → List Char →
    Option (Part × List (List Char) × List Char)
  | 0, _, _, _, _ => none
  | fuel + 1, f, names, done, cs =>
    (sequence? fuel f names [] cs).bind fun (p, f', names', rest) =>
      match rest with
      | '|' :: tail => alternatives? fuel f' names' (p :: done) tail
      | _ => some (Part.choice (p :: done).reverse, names', rest)

/-- Parts one after another behind `done`, and the flags in force after them. -/
def sequence? : Nat → Flags → List (List Char) → List Item → List Char →
    Option (Part × Flags × List (List Char) × List Char)
  | 0, _, _, _, _ => none
  | fuel + 1, f, names, done, cs =>
    let next (p : Part) (rest : List Char) := sequence? fuel f names (.part p :: done) rest
    match f.skip cs with
    | [] => some (Part.sequence done, f, names, [])
    | '|' :: rest => some (Part.sequence done, f, names, '|' :: rest)
    | ')' :: rest => some (Part.sequence done, f, names, ')' :: rest)
    | '(' :: rest => (opening? f names rest).bind fun (opening, names', body) =>
      match opening with
      | .setting f' => sequence? fuel f' names' (.setting :: done) body
      | .group inside isKept => (alternatives? fuel inside names' [] body).bind fun (p, names'', after) =>
        match after with
        | ')' :: tail =>
          sequence? fuel f names'' (.part (p.nested fun r => if isKept then .group r else r) :: done) tail
        | _ => none
    | '*' :: rest => (repeated? 0 none done).bind fun done => sequence? fuel f names done (dropReluctance rest)
    | '+' :: rest => (repeated? 1 none done).bind fun done => sequence? fuel f names done (dropReluctance rest)
    | '?' :: rest => (repeated? 0 (some 1) done).bind fun done => sequence? fuel f names done (dropReluctance rest)
    | '\x7b' :: rest => (bounds? f rest).bind fun (least, most, tail) =>
      (repeated? least most done).bind fun done => sequence? fuel f names done (dropReluctance (f.skip tail))
    | '.' :: rest => (dot? f).bind fun s => next ⟨.char s, 0⟩ rest
    | '^' :: rest => next ⟨.anchor (startAnchor f), 0⟩ rest
    | '$' :: rest => next ⟨.anchor (endAnchor f), 0⟩ rest
    | '[' :: rest =>
      (bracket? f (2 * rest.length + 2) rest).bind fun (s, depth, tail) => next ⟨.char s, depth⟩ tail
    | '\\' :: rest => (escape? f rest).bind fun (e, tail) => next (escapePart f e) tail
    | c :: rest => next (escapePart f (.char c)) rest

end

/-- The expression that a text writes. -/
def parse? (source : String) : Option Regex :=
  let cs := source.toList
  (alternatives? (4 * cs.length + 4) .initial [] [] cs).bind fun (p, _, rest) =>
    if rest.isEmpty && p.depth ≤ greatestDepth && p.regex.isAffordable then some p.regex else none

end Regex

end StatementProfiles
