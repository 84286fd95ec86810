import StatementProfiles.Decimal.Binary64

/-!
# The shortest decimal of a binary number

`shortest x` is the decimal with the fewest digits that reads back as `x`; of several with that many digits it is the
one nearest to `x`. For `n = 1, 2, …, 17` digits it looks at the two neighbours of `x` on the grid of `n`-digit
decimals, and the first grid on which one of them reads back gives the answer.

`render` writes the digits: positional between `10 ^ -5` and `10 ^ 16`, scientific with a signed exponent elsewhere.
-/

namespace StatementProfiles

namespace Binary64

/-- The decimal `digits · 10 ^ exponent`. -/
structure Decimal where
  digits : Nat
  exponent : Int
deriving DecidableEq, Repr

/-- Whether `10 ^ k ≤ num / den`. -/
def powerAtMost (num den : Nat) (k : Int) : Bool :=
  if 0 ≤ k then Nat.pow 10 k.toNat * den ≤ num else den ≤ num * Nat.pow 10 (-k).toNat

/-- The greatest `k` with `10 ^ k ≤ num / den`, for `num > 0`: the estimate from the binary logarithm is at most two
too small. -/
def magnitude (num den : Nat) : Int :=
  let estimate : Int := (((num.log2 : Int) - den.log2 - 1) * 30103) / 100000 - 1
  if powerAtMost num den (estimate + 3) then estimate + 3
  else if powerAtMost num den (estimate + 2) then estimate + 2
  else if powerAtMost num den (estimate + 1) then estimate + 1
  else estimate

/-- The fraction `num / den` in units of `10 ^ e`. -/
def inUnits (num den : Nat) (e : Int) : Nat × Nat :=
  if 0 ≤ e then (num, den * Nat.pow 10 e.toNat) else (num * Nat.pow 10 (-e).toNat, den)

/-- Whether a decimal reads back as the magnitude of `x`. -/
def readsBack (x : Binary64) (d : Decimal) : Bool :=
  ofDecimal x.negative d.digits d.exponent == some x

/-- The nearer of the two neighbours of `x` on the grid of `10 ^ e` among those that read back. -/
def onGrid (x : Binary64) (e : Int) : Option Decimal :=
  let (num, den) := inUnits x.ratio.1 x.ratio.2 e
  let below : Decimal := ⟨num / den, e⟩
  let above : Decimal := ⟨num / den + 1, e⟩
  let r := num % den
  let preferAbove := 2 * r > den || (2 * r == den && (num / den) % 2 == 1)
  match readsBack x below, readsBack x above with
  | true, true => some (if preferAbove then above else below)
  | true, false => some below
  | false, true => some above
  | false, false => none

/-- The first grid, from `n` digits on, that has a decimal for `x`. -/
def firstGrid (x : Binary64) (top : Int) : Nat → Nat → Option Decimal
  | 0, _ => none
  | fuel + 1, n =>
    match onGrid x (top - n + 1) with
    | some d => some d
    | none => firstGrid x top fuel (n + 1)

/-- A decimal without trailing zeros. -/
def trim : Nat → Decimal → Decimal
  | 0, d => d
  | fuel + 1, d => if d.digits % 10 = 0 && d.digits != 0 then trim fuel ⟨d.digits / 10, d.exponent + 1⟩ else d

/-- The decimal with the fewest digits that reads back as the magnitude of `x`. -/
def shortest (x : Binary64) : Decimal :=
  if x.isZero then ⟨0, 0⟩
  else
    let top := magnitude x.ratio.1 x.ratio.2
    match firstGrid x top 17 1 with
    | some d => trim 20 d
    | none => ⟨x.ratio.1, 0⟩

/-! ## Writing -/

/-- `n` zeros. -/
def zeros (n : Nat) : String := String.ofList (List.replicate n '0')

/-- Scientific form: one digit, the others after a point, and the exponent with its sign. -/
def scientific (digits : List Char) (exponent : Int) : String :=
  let head := String.ofList (digits.take 1)
  let tail := digits.drop 1
  let mantissa := if tail.isEmpty then head else head ++ "." ++ String.ofList tail
  mantissa ++ "e" ++ (if exponent < 0 then "-" else "+") ++ toString exponent.natAbs

/-- Positional form with at least one digit after the point. -/
def positional (digits : List Char) (exponent : Int) : String :=
  let count : Int := digits.length
  if 0 ≤ exponent then String.ofList digits ++ zeros exponent.toNat ++ ".0"
  else if count + exponent ≤ 0 then "0." ++ zeros (-(count + exponent)).toNat ++ String.ofList digits
  else
    let whole := (count + exponent).toNat
    String.ofList (digits.take whole) ++ "." ++ String.ofList (digits.drop whole)

/-- The text of a number: its shortest decimal, positional when the magnitude is zero or in `[10 ^ -5, 10 ^ 16)`. -/
def render (x : Binary64) : String :=
  let d := shortest x
  let digits := Nat.toDigits 10 d.digits
  let top : Int := digits.length + d.exponent - 1
  let sign := if x.negative then "-" else ""
  if x.isZero then sign ++ "0.0"
  else if -5 ≤ top && top < 16 then sign ++ positional digits d.exponent
  else sign ++ scientific digits top

end Binary64

end StatementProfiles
