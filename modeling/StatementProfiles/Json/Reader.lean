import StatementProfiles.Datum
import StatementProfiles.Text.Utf8

/-!
# Reading JSON texts

`Json.read` turns a JSON text into a `Datum`. The grammar is strict; what is well-formed but has no value becomes
`Datum.unreadable`, so a text may hold it where nobody looks: a string with an octet that belongs to no character or
with half a surrogate pair, a number beyond the binary numbers, an array or object nested more than 127 deep.

Each function takes the glyphs from where it stands and returns what it read and the rest; the fuel bounds the number
of values, items and members read.
-/

namespace StatementProfiles

namespace Json

/-- The white space of JSON. -/
def isSpace (c : Char) : Bool := c == ' ' || c == '\t' || c == '\n' || c == '\r'

/-- The rest after white space. -/
def skipSpace : List Glyph → List Glyph
  | some c :: rest => if isSpace c then skipSpace rest else some c :: rest
  | gs => gs

/-! ## Strings -/

/-- A piece of a quoted string: a character or mark as it stands, or a code unit written as four digits. -/
inductive Piece where
  | glyph (g : Glyph)
  | unit (code : Nat)

/-- The character of an escape of one letter. -/
def escaped? (c : Char) : Option Char :=
  if c == '"' || c == '\\' || c == '/' then some c
  else if c == 'b' then some (Char.ofNat 8)
  else if c == 'f' then some (Char.ofNat 12)
  else if c == 'n' then some '\n'
  else if c == 'r' then some '\r'
  else if c == 't' then some '\t'
  else none

/-- The pieces up to the closing quote, and the rest behind it. -/
def pieces? : List Glyph → Option (List Piece × List Glyph)
  | [] => none
  | some '"' :: rest => some ([], rest)
  | some '\\' :: some 'u' :: some a :: some b :: some c :: some d :: rest =>
    match Text.hexDigits? [a, b, c, d] with
    | some code => (pieces? rest).map fun (ps, tail) => (.unit code :: ps, tail)
    | none => none
  | some '\\' :: some c :: rest =>
    match escaped? c with
    | some e => (pieces? rest).map fun (ps, tail) => (.glyph (some e) :: ps, tail)
    | none => none
  | some '\\' :: _ => none
  | some c :: rest =>
    if c.toNat < 32 then none else (pieces? rest).map fun (ps, tail) => (.glyph (some c) :: ps, tail)
  | none :: rest => (pieces? rest).map fun (ps, tail) => (.glyph none :: ps, tail)

/-- The characters of the pieces: two halves of a surrogate pair are one, a half alone is none. -/
def assemble? : List Piece → Option (List Char)
  | [] => some []
  | .glyph none :: _ => none
  | .glyph (some c) :: rest => (assemble? rest).map (c :: ·)
  | .unit high :: .unit low :: rest =>
    if 0xD800 ≤ high && high < 0xDC00 then
      if 0xDC00 ≤ low && low < 0xE000 then
        (assemble? rest).map (Char.ofNat (0x10000 + (high - 0xD800) * 0x400 + (low - 0xDC00)) :: ·)
      else none
    else if 0xDC00 ≤ high && high < 0xE000 then none
    else (assemble? (.unit low :: rest)).map (Char.ofNat high :: ·)
  | .unit code :: rest =>
    if 0xD800 ≤ code && code < 0xE000 then none else (assemble? rest).map (Char.ofNat code :: ·)

/-- The string behind an opening quote. -/
def readString (gs : List Glyph) : Option (Datum × List Glyph) :=
  (pieces? gs).map fun (ps, rest) =>
    (match assemble? ps with
      | some cs => .string (String.ofList cs)
      | none => .unreadable, rest)

/-! ## Numbers -/

/-- The leading decimal digits, and the rest. -/
def takeDigits : List Glyph → List Char × List Glyph
  | some c :: rest =>
    if Text.isDigit c then ((c :: (takeDigits rest).1), (takeDigits rest).2) else ([], some c :: rest)
  | gs => ([], gs)

/-- The greatest number that the digits of a binary number are gathered in. -/
def greatestGathered : Nat := 0xffffffffffffffff

/-- The number of the leading digits as far as they fit 64 bits, and the digits left over. -/
def gather (n : Nat) : List Char → Nat × List Char
  | [] => (n, [])
  | c :: rest =>
    let next := n * 10 + (c.toNat - '0'.toNat)
    if next > greatestGathered then (n, c :: rest) else gather next rest

/-- The binary number of a notation. Digits that do not fit 64 bits count by their places only. -/
def realOf (negative : Bool) (whole fraction : List Char) (exponent : Int) : Option Binary64 :=
  let (n, restWhole) := gather 0 whole
  if restWhole.isEmpty then
    let (m, restFraction) := gather n fraction
    Binary64.ofScaled negative m (exponent - (fraction.length - restFraction.length : Nat))
  else
    let (m, restFraction) := gather n fraction
    Binary64.ofScaled negative m (exponent + restWhole.length - (fraction.length - restFraction.length : Nat))

/-- The value of a number without fraction and exponent: an integer if it fits, `-0` being a binary number. -/
def integerOf (negative : Bool) (whole : List Char) : Datum :=
  let n := Text.digitsValue whole
  let i : Int := if negative then -n else n
  if negative && n == 0 then .number (.real (Binary64.zero true))
  else if Number.leastInt ≤ i && i ≤ Number.greatestInt then .number (.int i)
  else match realOf negative whole [] 0 with
    | some x => .number (.real x)
    | none => .unreadable

/-- The fraction after a point, at least one digit; no point is no fraction. -/
def fraction? : List Glyph → Option (List Char × List Glyph)
  | some '.' :: rest =>
    let (ds, tail) := takeDigits rest
    if ds.isEmpty then none else some (ds, tail)
  | gs => some ([], gs)

/-- The digits of an exponent with its sign. -/
def exponentDigits? (negative : Bool) (gs : List Glyph) : Option (Option Int × List Glyph) :=
  let (ds, tail) := takeDigits gs
  if ds.isEmpty then none
  else
    let n : Int := Text.digitsValue ds
    some (some (if negative then -n else n), tail)

/-- The exponent after `e`; nothing written is no exponent. -/
def exponent? : List Glyph → Option (Option Int × List Glyph)
  | some e :: rest =>
    if e == 'e' || e == 'E' then
      match rest with
      | some '+' :: tail => exponentDigits? false tail
      | some '-' :: tail => exponentDigits? true tail
      | _ => exponentDigits? false rest
    else some (none, some e :: rest)
  | gs => some (none, gs)

/-- The number whose digits start here. -/
def readNumber (negative : Bool) (gs : List Glyph) : Option (Datum × List Glyph) :=
  let (whole, afterWhole) := takeDigits gs
  if whole.isEmpty || (whole.length > 1 && whole.head? == some '0') then none
  else (fraction? afterWhole).bind fun (fraction, afterFraction) =>
    (exponent? afterFraction).map fun (exponent, rest) =>
      if fraction.isEmpty && exponent.isNone then (integerOf negative whole, rest)
      else (match realOf negative whole fraction (exponent.getD 0) with
        | some x => .number (.real x)
        | none => .unreadable, rest)

/-! ## Values -/

/-- The rest after a word. -/
def afterWord? : List Char → List Glyph → Option (List Glyph)
  | [], gs => some gs
  | c :: cs, some g :: rest => if c = g then afterWord? cs rest else none
  | _, _ => none

/-- The greatest depth of arrays and objects that have a value. -/
def greatestDepth : Nat := 127

/-- An array or object at a depth. -/
def atDepth (depth : Nat) (d : Datum) : Datum := if depth > greatestDepth then .unreadable else d

mutual

/-- The value that starts here. -/
def readValue : Nat → Nat → List Glyph → Option (Datum × List Glyph)
  | 0, _, _ => none
  | fuel + 1, depth, gs =>
    match skipSpace gs with
    | some '"' :: rest => readString rest
    | some '[' :: rest =>
      match skipSpace rest with
      | some ']' :: tail => some (atDepth (depth + 1) (.array []), tail)
      | _ => (readItems fuel (depth + 1) rest).map fun (items, tail) => (atDepth (depth + 1) (.array items), tail)
    | some '\x7b' :: rest =>
      match skipSpace rest with
      | some '\x7d' :: tail => some (atDepth (depth + 1) (.record []), tail)
      | _ => (readMembers fuel (depth + 1) rest).map fun (members, tail) =>
        (atDepth (depth + 1) (.record members), tail)
    | some '-' :: rest => readNumber true rest
    | some 't' :: rest => (afterWord? ['r', 'u', 'e'] rest).map fun tail => (.bool true, tail)
    | some 'f' :: rest => (afterWord? ['a', 'l', 's', 'e'] rest).map fun tail => (.bool false, tail)
    | some 'n' :: rest => (afterWord? ['u', 'l', 'l'] rest).map fun tail => (.null, tail)
    | rest => readNumber false rest

/-- One item and those behind it, up to the closing bracket. -/
def readItems : Nat → Nat → List Glyph → Option (List Datum × List Glyph)
  | 0, _, _ => none
  | fuel + 1, depth, gs =>
    (readValue fuel depth gs).bind fun (item, rest) =>
      match skipSpace rest with
      | some ',' :: tail => (readItems fuel depth tail).map fun (items, behind) => (item :: items, behind)
      | some ']' :: tail => some ([item], tail)
      | _ => none

/-- One member and those behind it, up to the closing brace. -/
def readMembers : Nat → Nat → List Glyph → Option (List (Datum × Datum) × List Glyph)
  | 0, _, _ => none
  | fuel + 1, depth, gs =>
    match skipSpace gs with
    | some '"' :: afterQuote =>
      (readString afterQuote).bind fun (key, afterKey) =>
        match skipSpace afterKey with
        | some ':' :: afterColon =>
          (readValue fuel depth afterColon).bind fun (value, rest) =>
            match skipSpace rest with
            | some ',' :: tail =>
              (readMembers fuel depth tail).map fun (members, behind) => ((key, value) :: members, behind)
            | some '\x7d' :: tail => some ([(key, value)], tail)
            | _ => none
        | _ => none
    | _ => none

end

/-- The datum of a JSON text: one value with white space around it. -/
def readGlyphs (gs : List Glyph) : Option Datum :=
  (readValue (2 * gs.length + 2) 0 gs).bind fun (d, rest) => if (skipSpace rest).isEmpty then some d else none

/-- The datum of a JSON text in octets. -/
def read (octets : List UInt8) : Option Datum := readGlyphs (Utf8.decode octets)

/-- The JSON value of a text. -/
def parse? (text : String) : Option Json := (readGlyphs (glyphs text)).bind Datum.json?

/-- The JSON value of a text in octets. -/
def parseOctets? (octets : List UInt8) : Option Json := (read octets).bind Datum.json?

end Json

end StatementProfiles
