import StatementProfiles.Text.Span

/-!
# Characters as paths of octets

The UTF-8 octets of the characters of a span are given by paths (`OctetPath.ofSpan`): a path is a range of octets for
each octet of a character, and each choice of octets from the ranges is one of the characters.
-/

namespace StatementProfiles

/-- The octets from `first` to `last`. -/
structure OctetRange where
  first : Nat
  last : Nat
deriving DecidableEq, Repr, Inhabited

/-- A range for each octet of a character. -/
abbrev OctetPath := List OctetRange

namespace OctetPath

/-- How many values a number of octets behind the first can have. -/
def tailCount : Nat → Nat
  | 0 => 1
  | k + 1 => 64 * tailCount k

/-- The paths of the values from `low` to `high`, with `k` octets behind a first one that counts from `base`. Where the
values start or end within the tails of a first octet, that octet has paths of its own. -/
def between (base : Nat) : Nat → Nat → Nat → List OctetPath
  | 0, low, high => [[⟨base + low, base + high⟩]]
  | k + 1, low, high =>
    let count := tailCount (k + 1)
    let first := low / count
    let last := high / count
    let under (lead : Nat) (tails : List OctetPath) := tails.map fun tail => ⟨base + lead, base + lead⟩ :: tail
    if first = last then under first (between 0x80 k (low % count) (high % count))
    else
      let cutLow := low % count != 0
      let cutHigh := high % count != count - 1
      let start := if cutLow then first + 1 else first
      let stop := if cutHigh then last else last + 1
      (if cutLow then under first (between 0x80 k (low % count) (count - 1)) else [])
        ++ (if start < stop then [⟨base + start, base + stop - 1⟩ :: List.replicate (k + 1) ⟨0x80, 0xBF⟩] else [])
        ++ (if cutHigh then under last (between 0x80 k 0 (high % count)) else [])

/-- The code points of one to four octets with the base of the first octet and the number of those behind it. -/
def forms : List (Span × Nat × Nat) :=
  [(⟨0, 0x7F⟩, 0, 0), (⟨0x80, 0x7FF⟩, 0xC0, 1), (⟨0x800, 0xD7FF⟩, 0xE0, 2), (⟨0xE000, 0xFFFF⟩, 0xE0, 2),
    (⟨0x10000, 0x10FFFF⟩, 0xF0, 3)]

/-- The paths of the characters of a span, in order. -/
def ofSpan (s : Span) : List OctetPath :=
  forms.flatMap fun (form, base, k) =>
    let low := max s.first form.first
    let high := min s.last form.last
    if low ≤ high then between base k low high else []

end OctetPath

end StatementProfiles
