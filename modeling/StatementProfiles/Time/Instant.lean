import StatementProfiles.Time.Date

/-!
# Instants

An `Instant` is a point in time: a day and a time of day in UTC, to the nanosecond. A leap second is the last second of
its minute gone on for more than a second. `Instant.render` writes the usual notation `2024-03-01T12:30:45.5Z`, either
with as many digits of the fraction as it takes, in groups of three, or with three.
-/

namespace StatementProfiles

/-- A point in time. -/
structure Instant where
  date : Date
  hour : Nat
  minute : Nat
  second : Nat
  /-- Nanoseconds since the second began; a thousand million and more in a leap second. -/
  nanos : Nat
deriving DecidableEq, Repr, Inhabited

namespace Instant

/-- The nanoseconds of a second. -/
def perSecond : Nat := 1000000000

/-- The point that many seconds and nanoseconds after the start of 1970. -/
def ofEpoch (seconds : Int) (nanos : Nat) : Instant :=
  let ofDay := (seconds % 86400).toNat
  ⟨Date.ofDayNumber (seconds / 86400), ofDay / 3600, ofDay / 60 % 60, ofDay % 60, nanos⟩

/-- The time that the same clock shows when it is set forward by less than a day of minutes, or back. -/
def shift (i : Instant) (minutes : Int) : Instant :=
  let total := (i.hour * 60 + i.minute : Nat) + minutes
  let ofDay := (total % 1440).toNat
  let date := if total < 0 then i.date.previous else if 1440 ≤ total then i.date.next else i.date
  { i with date := date, hour := ofDay / 60, minute := ofDay % 60 }

/-! ## Writing -/

/-- The last `count` decimal digits of a number, in front of others. -/
def digits : (count : Nat) → Nat → List Char → List Char
  | 0, _, acc => acc
  | count + 1, n, acc => digits count (n / 10) (Nat.digitChar (n % 10) :: acc)

/-- A number in at least four digits. -/
def atLeastFour (n : Nat) : List Char :=
  if n < 10000 then digits 4 n [] else Nat.toDigits 10 n

/-- A year in four digits, with a sign when it needs one or takes more. -/
def yearText (year : Int) : List Char :=
  if year < 0 then '-' :: atLeastFour year.natAbs
  else if year ≤ 9999 then digits 4 year.natAbs []
  else '+' :: atLeastFour year.natAbs

/-- How much of the fraction of a second is written. -/
inductive Precision where
  /-- Nothing, or the fewest of three, six and nine digits that lose nothing. -/
  | exact
  /-- Three digits. -/
  | millis
deriving DecidableEq, Repr, Inhabited

/-- The fraction of a second with its point. -/
def fractionText (p : Precision) (nanos : Nat) : List Char :=
  match p with
  | .millis => '.' :: digits 3 (nanos / 1000000) []
  | .exact =>
    if nanos = 0 then []
    else if nanos % 1000000 = 0 then '.' :: digits 3 (nanos / 1000000) []
    else if nanos % 1000 = 0 then '.' :: digits 6 (nanos / 1000) []
    else '.' :: digits 9 nanos []

/-- The characters of an instant. -/
def characters (p : Precision) (i : Instant) : List Char :=
  let isLeap := perSecond ≤ i.nanos
  let second := if isLeap then i.second + 1 else i.second
  let nanos := if isLeap then i.nanos - perSecond else i.nanos
  yearText i.date.year ++ '-' :: digits 2 i.date.month ('-' :: digits 2 i.date.day ('T' ::
    digits 2 i.hour (':' :: digits 2 i.minute (':' :: digits 2 second (fractionText p nanos ++ ['Z'])))))

/-- The text of an instant. -/
def render (p : Precision) (i : Instant) : String := String.ofList (characters p i)

end Instant

end StatementProfiles
