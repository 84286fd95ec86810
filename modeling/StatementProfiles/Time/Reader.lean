import StatementProfiles.Text.Blank
import StatementProfiles.Time.Instant

/-!
# Reading instants

`Instant.ofString?` reads a date, a time of day and an offset from UTC. It is lenient: numbers need not fill their
places, white space may stand in front of numbers and separators, and the date ends at a blank or at `T` in either case.
The offset is `Z`, `UTC` or hours and minutes; without one there is no instant.
-/

namespace StatementProfiles

namespace Instant

/-- A reader of a part: the part and the characters behind it. -/
abbrev Part (α : Type) := List Char → Option (α × List Char)

/-- A number of one to `most` digits. -/
def readNumber (most : Nat) : Part Nat := fun cs =>
  let ds := (cs.take most).takeWhile Text.isDigit
  if ds.isEmpty then none else some (Text.digitsValue ds, cs.drop ds.length)

/-- A number of one or two digits behind white space. -/
def readTwoDigits : Part Nat := fun cs => readNumber 2 (Text.trimStart cs)

/-- A year behind white space: four digits at most, or any number of them behind a sign. -/
def readYear : Part Int := fun cs =>
  match Text.trimStart cs with
  | '-' :: rest => (readNumber rest.length rest).map fun (n, rest) => (-(n : Int), rest)
  | '+' :: rest => (readNumber rest.length rest).map fun (n, rest) => ((n : Int), rest)
  | rest => (readNumber 4 rest).map fun (n, rest) => ((n : Int), rest)

/-- What follows a separator behind white space. -/
def after (separator : Char) (cs : List Char) : Option (List Char) :=
  match Text.trimStart cs with
  | [] => none
  | c :: rest => if c = separator then some rest else none

/-- A fraction of a second in nanoseconds, if there is one; digits behind the ninth count for nothing. -/
def readFraction : Part Nat := fun cs =>
  match cs with
  | '.' :: rest =>
    (readNumber 9 rest).map fun (n, tail) =>
      (n * Nat.pow 10 (9 - (rest.length - tail.length)), tail.dropWhile Text.isDigit)
  | _ => some (0, cs)

/-- Two digits, exactly. -/
def readBothDigits : Part Nat := fun cs =>
  match cs with
  | a :: b :: rest => if Text.isDigit a && Text.isDigit b then some (Text.digitsValue [a, b], rest) else none
  | _ => none

/-- Hours and minutes of an offset, in minutes. -/
def readOffsetMinutes : Part Int := fun cs =>
  (readBothDigits cs).bind fun (hours, rest) =>
  (readBothDigits (rest.dropWhile fun c => c == ':' || isBlank c)).bind fun (minutes, rest) =>
    if minutes < 60 then some (((hours * 60 + minutes : Nat) : Int), rest) else none

/-- The sign `−` of typography. -/
def minusSign : Char := Char.ofNat 0x2212

/-- An offset from UTC in minutes. -/
def readOffset : Part Int := fun cs =>
  if (cs.take 3).map Char.toUpper = ['U', 'T', 'C'] then some (0, cs.drop 3)
  else match cs with
    | [] => none
    | c :: rest =>
      if c = 'Z' || c = 'z' then some (0, rest)
      else if c = '+' then readOffsetMinutes rest
      else if c = '-' || c = minusSign then (readOffsetMinutes rest).map fun (m, rest) => (-m, rest)
      else none

/-- A day. -/
def readDate : Part Date := fun cs =>
  (readYear cs).bind fun (y, rest) =>
  (after '-' rest).bind fun rest =>
  (readTwoDigits rest).bind fun (m, rest) =>
  (after '-' rest).bind fun rest =>
  (readTwoDigits rest).map fun (d, rest) => (⟨y, m, d⟩, rest)

/-- What follows the mark between day and time. -/
def afterDate : List Char → Option (List Char)
  | c :: rest => if c = 'T' || c = 't' || c = ' ' then some rest else none
  | [] => none

/-- The instant of a clock's day and time; second 60 is a leap second behind the last second of the minute. -/
def ofClock? (d : Date) (hour minute second nanos : Nat) : Option Instant :=
  if d.isValid && hour < 24 && minute < 60 && second ≤ 60 then
    if second = 60 then some ⟨d, hour, minute, 59, perSecond + nanos⟩
    else some ⟨d, hour, minute, second, nanos⟩
  else none

/-- The instant that a clock shows at an offset from UTC. -/
def atOffset? (i : Instant) (minutes : Int) : Option Instant :=
  if minutes.natAbs < 1440 then
    let shifted := i.shift (-minutes)
    if shifted.date.isValid then some shifted else none
  else none

/-- The instant that characters write. -/
def ofChars? (cs : List Char) : Option Instant :=
  (readDate cs).bind fun (d, rest) =>
  (afterDate rest).bind fun rest =>
  (readTwoDigits rest).bind fun (hour, rest) =>
  (after ':' rest).bind fun rest =>
  (readTwoDigits rest).bind fun (minute, rest) =>
  (after ':' rest).bind fun rest =>
  (readTwoDigits rest).bind fun (second, rest) =>
  (readFraction rest).bind fun (nanos, rest) =>
  (readOffset (Text.trimStart rest)).bind fun (minutes, rest) =>
  if rest.all isBlank then (ofClock? d hour minute second nanos).bind fun i => i.atOffset? minutes else none

/-- The instant that a text writes. -/
def ofString? (s : String) : Option Instant := ofChars? s.toList

end Instant

end StatementProfiles
