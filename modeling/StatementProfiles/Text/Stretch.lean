import StatementProfiles.Text.Blank

/-!
# Stretches of code points

The tables of character properties write their code points as a text of words (`Stretch.listOf`): `41` is one code
point, `41-5A` is a range and `100-12E/2` is every second code point of a range, all in hexadecimal digits.
-/

namespace StatementProfiles

/-- Code points from `first` to `last`, every `step`-th of them. -/
structure Stretch where
  first : Nat
  last : Nat
  step : Nat
deriving DecidableEq, Repr, Inhabited

namespace Stretch

/-- Whether a code point lies in the stretch. -/
def contains (s : Stretch) (n : Nat) : Bool := s.first ≤ n && n ≤ s.last && (n - s.first) % s.step == 0

/-- The code points of the stretch in order. -/
def elements (s : Stretch) : List Nat :=
  (List.range ((s.last - s.first) / s.step + 1)).map fun i => s.first + i * s.step

/-- The first and last code point of a word without its step. -/
def bounds? (cs : List Char) : Option (Nat × Nat) :=
  match Text.splitOn '-' cs with
  | [one] => (Text.hexDigits? one).map fun n => (n, n)
  | [first, last] => (Text.hexDigits? first).bind fun m => (Text.hexDigits? last).map fun n => (m, n)
  | _ => none

/-- The stretch that a word writes. -/
def ofWord? (cs : List Char) : Option Stretch :=
  match Text.splitOn '/' cs with
  | [range] => (bounds? range).map fun (m, n) => ⟨m, n, 1⟩
  | [range, step] => (bounds? range).bind fun (m, n) => (Text.hexDigits? step).map fun k => ⟨m, n, k⟩
  | _ => none

/-- The words of a text, with blanks or ends of lines between them. -/
def words (text : String) : List (List Char) :=
  (Text.splitOn ' ' (text.toList.map fun c => if c == '\n' then ' ' else c)).filter fun word => !word.isEmpty

/-- The stretches that the words of a text write. -/
def listOf (text : String) : List Stretch := (words text).filterMap ofWord?

end Stretch

end StatementProfiles
