/-!
# Texts as UTF-8 octets

`Utf8.decode` reads octets as characters. An octet that belongs to no well-formed character gives the mark `none`, so
that a reader can pass over it where the text does not matter. `Utf8.text?` is the whole text when every octet belongs
to a character.
-/

namespace StatementProfiles

/-- A character of a text, or the mark of an octet that belongs to none. -/
abbrev Glyph := Option Char

namespace Utf8

/-- The state between two octets: how many more the character needs, the range of the next one, and the bits so far. -/
structure State where
  owed : Nat
  least : Nat
  greatest : Nat
  bits : Nat

/-- Between characters. -/
def start : State := ⟨0, 0, 0, 0⟩

/-- Continuation octets are owed; the first of them lies in a range of its own. -/
def owing (owed least greatest bits : Nat) : State := ⟨owed, least, greatest, bits⟩

/-- The first octet of a character: the character, or the state after it, or the mark. -/
def first (b : Nat) : Option Glyph × State :=
  if b < 0x80 then (some (some (Char.ofNat b)), start)
  else if 0xC2 ≤ b && b ≤ 0xDF then (none, owing 1 0x80 0xBF (b - 0xC0))
  else if b == 0xE0 then (none, owing 2 0xA0 0xBF 0)
  else if b == 0xED then (none, owing 2 0x80 0x9F 0xD)
  else if 0xE1 ≤ b && b ≤ 0xEF then (none, owing 2 0x80 0xBF (b - 0xE0))
  else if b == 0xF0 then (none, owing 3 0x90 0xBF 0)
  else if 0xF1 ≤ b && b ≤ 0xF3 then (none, owing 3 0x80 0xBF (b - 0xF0))
  else if b == 0xF4 then (none, owing 3 0x80 0x8F 4)
  else (some none, start)

/-- The glyph of a finished octet, in front of the others. -/
def emit : Option Glyph → List Glyph → List Glyph
  | none, rest => rest
  | some g, rest => g :: rest

/-- The glyphs of the octets that follow a state. -/
def decodeFrom : State → List UInt8 → List Glyph
  | s, [] => if s.owed = 0 then [] else [none]
  | s, b :: rest =>
    let n := b.toNat
    if s.owed = 0 then
      let (g, s') := first n
      emit g (decodeFrom s' rest)
    else if s.least ≤ n && n ≤ s.greatest then
      let bits := s.bits * 64 + (n - 0x80)
      if s.owed = 1 then some (Char.ofNat bits) :: decodeFrom start rest
      else decodeFrom (owing (s.owed - 1) 0x80 0xBF bits) rest
    else
      let (g, s') := first n
      none :: emit g (decodeFrom s' rest)

/-- The glyphs of a sequence of octets. -/
def decode (octets : List UInt8) : List Glyph := decodeFrom start octets

/-- The characters, when every glyph is one. -/
def characters? : List Glyph → Option (List Char)
  | [] => some []
  | none :: _ => none
  | some c :: rest => (characters? rest).map (c :: ·)

/-- The text of well-formed octets. -/
def text? (octets : List UInt8) : Option String := (characters? (decode octets)).map String.ofList

end Utf8

/-- The glyphs of a text. -/
def glyphs (s : String) : List Glyph := s.toList.map some

end StatementProfiles
