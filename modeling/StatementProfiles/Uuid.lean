import StatementProfiles.Text.Blank

/-!
# Universally unique identifiers

A `Uuid` is a number of 128 bits. It is written as five groups of lower-case hexadecimal digits; it is read from that
form in either case, from the digits alone, in braces, or as a URN.
-/

namespace StatementProfiles

/-- How many numbers of 128 bits there are. -/
abbrev uuidCount : Nat := 0x100000000000000000000000000000000

/-- A number of 128 bits. -/
structure Uuid where
  value : Fin uuidCount
deriving DecidableEq, Repr, Inhabited

namespace Uuid

/-- The last `count` hexadecimal digits of a number, in front of others. -/
def hexDigits : (count : Nat) → Nat → List Char → List Char
  | 0, _, acc => acc
  | count + 1, n, acc => hexDigits count (n / 16) ((Nat.digitChar (n % 16)) :: acc)

/-- The identifier of random bits: 122 of them, with the version and the variant that mark it as random. -/
def random (bits : Nat) : Uuid :=
  let high := (bits >>> 80) % (1 <<< 48)
  let middle := (bits >>> 64) % (1 <<< 12)
  let low := bits % (1 <<< 62)
  ⟨Fin.ofNat _ ((high <<< 80) + (4 <<< 76) + (middle <<< 64) + (2 <<< 62) + low)⟩

/-- The digits in five groups with hyphens between them. -/
def render (u : Uuid) : String :=
  let ds := hexDigits 32 u.value.val []
  let group (start count : Nat) : String := String.ofList ((ds.drop start).take count)
  "-".intercalate [group 0 8, group 8 4, group 12 4, group 16 4, group 20 12]

/-- The lengths of the groups. -/
def groupLengths : List Nat := [8, 4, 4, 4, 12]

/-- The number of 32 hexadecimal digits. -/
def ofDigits? (cs : List Char) : Option Uuid :=
  if cs.length = 32 then
    (Text.hexDigits? cs).bind fun n => if h : n < uuidCount then some ⟨⟨n, h⟩⟩ else none
  else none

/-- The identifier of its digits with or without hyphens. -/
def ofPlain? (cs : List Char) : Option Uuid :=
  if cs.contains '-' then
    let groups := Text.splitOn '-' cs
    if groups.map List.length = groupLengths then ofDigits? groups.flatten else none
  else ofDigits? cs

/-- The identifier of a text. -/
def ofString? (s : String) : Option Uuid :=
  if s.startsWith "urn:uuid:" then ofPlain? (s.toList.drop 9)
  else match s.toList with
    | '\x7b' :: rest =>
      if rest.getLast? = some '\x7d' then ofPlain? rest.dropLast else none
    | cs => ofPlain? cs

end Uuid

end StatementProfiles
