/-!
# Finite binary numbers of 64 bits

A `Binary64` is `± significand · 2 ^ exponent`. `ofRatio` rounds a fraction to the nearest of them, a tie to the even
significand; the arithmetic here is exact arithmetic on fractions followed by one rounding. `ofDecimal` reads a decimal
in one rounding; `ofScaled` reads it as JSON texts do here: the digits become a binary number first and are then
multiplied or divided by a power of ten, with a rounding at each step.
-/

namespace StatementProfiles

/-- The number `± significand · 2 ^ exponent`, with `significand < 2 ^ 53` and `exponent ≥ -1074`, and
`significand ≥ 2 ^ 52` unless the exponent is the least one. -/
structure Binary64 where
  negative : Bool
  significand : Nat
  exponent : Int
deriving DecidableEq, Repr, Inhabited

namespace Binary64

/-- The least exponent; zero and the subnormal numbers have it. -/
def leastExponent : Int := -1074

/-- The exponent of the greatest numbers. -/
def greatestExponent : Int := 971

/-- The least significand of a normal number, `2 ^ 52`. -/
def leastNormal : Nat := 0x10000000000000

/-- Zero with a sign. -/
def zero (negative : Bool) : Binary64 := ⟨negative, 0, leastExponent⟩

/-- Whether the number is zero, of either sign. -/
def isZero (x : Binary64) : Bool := x.significand == 0

/-- The magnitude as a fraction. -/
def ratio (x : Binary64) : Nat × Nat :=
  if 0 ≤ x.exponent then (x.significand <<< x.exponent.toNat, 1)
  else (x.significand, 1 <<< (-x.exponent).toNat)

/-- The quotient rounded to the nearest integer, a tie to the even one. -/
def roundDiv (num den : Nat) : Nat :=
  let q := num / den
  let r := num % den
  if 2 * r > den || (2 * r == den && q % 2 == 1) then q + 1 else q

/-- The fraction `num / den` divided by `2 ^ e`. -/
def shifted (num den : Nat) (e : Int) : Nat × Nat :=
  if 0 ≤ e then (num, den <<< e.toNat) else (num <<< (-e).toNat, den)

/-- The number nearest to `num / den`, a tie to the even significand; nothing when it lies beyond the greatest. -/
def ofRatio (negative : Bool) (num den : Nat) : Option Binary64 :=
  if num = 0 then some (zero negative) else
  let guess : Int := (num.log2 : Int) - (den.log2 : Int) - 52
  let fine := shifted num den guess
  let e := max (if fine.1 / fine.2 < leastNormal then guess - 1 else guess) leastExponent
  let scaled := shifted num den e
  let q := roundDiv scaled.1 scaled.2
  let (q, e) := if q = 2 * leastNormal then (leastNormal, e + 1) else (q, e)
  if e > greatestExponent then none else some ⟨negative, q, e⟩

/-- The integer rounded to the nearest number. -/
def ofNat (n : Nat) : Option Binary64 := ofRatio false n 1

/-- The integer with a sign, rounded to the nearest number. -/
def ofInt (i : Int) : Option Binary64 := ofRatio (i < 0) i.natAbs 1

/-- The rounded product. -/
def mul (x y : Binary64) : Option Binary64 :=
  ofRatio (x.negative != y.negative) (x.ratio.1 * y.ratio.1) (x.ratio.2 * y.ratio.2)

/-- The rounded quotient by a number other than zero. -/
def div (x y : Binary64) : Option Binary64 :=
  ofRatio (x.negative != y.negative) (x.ratio.1 * y.ratio.2) (x.ratio.2 * y.ratio.1)

/-- The number as an integer over a power of two: numerator with its sign, and denominator. -/
def signedRatio (x : Binary64) : Int × Nat :=
  (if x.negative then -(x.ratio.1 : Int) else x.ratio.1, x.ratio.2)

/-- Whether `x` is less than `y` as a number. -/
def lt (x y : Binary64) : Bool :=
  decide (x.signedRatio.1 * y.signedRatio.2 < y.signedRatio.1 * x.signedRatio.2)

/-- Whether two numbers are equal; the two zeros are. -/
def same (x y : Binary64) : Bool := x == y || (x.isZero && y.isZero)

/-- The magnitude of the rounded difference; nothing when it lies beyond the greatest number. -/
def distance (x y : Binary64) : Option Binary64 :=
  let (a, b) := x.signedRatio
  let (c, d) := y.signedRatio
  ofRatio false (a * d - c * b).natAbs (b * d)

/-- The gap between one and the next greater number. -/
def unitGap : Binary64 := ⟨false, leastNormal, -104⟩

/-- Whether two numbers differ by less than the gap above one. -/
def close (x y : Binary64) : Bool :=
  match distance x y with
  | some d => lt d unitGap
  | none => false

/-! ## Reading decimals -/

/-- The number of decimal digits, at least one. -/
def digitCount (n : Nat) : Nat := (Nat.toDigits 10 n).length

/-- The number nearest to `± digits · 10 ^ exponent`; nothing when it lies beyond the greatest. -/
def ofDecimal (negative : Bool) (digits : Nat) (exponent : Int) : Option Binary64 :=
  if digits = 0 then some (zero negative) else
  let magnitude : Int := digitCount digits + exponent
  if magnitude > 310 then none
  else if magnitude < -400 then some (zero negative)
  else if 0 ≤ exponent then ofRatio negative (digits * Nat.pow 10 exponent.toNat) 1
  else ofRatio negative digits (Nat.pow 10 (-exponent).toNat)

/-- The greatest power of ten that a scaling step uses. -/
def stepLimit : Nat := 308

/-- The binary number nearest to a power of ten. -/
def powerOfTen (k : Nat) : Binary64 := (ofNat (Nat.pow 10 k)).getD (zero false)

/-- `x` divided by `10 ^ k`, in at most `steps` steps by `10 ^ 308` and a last one by what remains. -/
def scaleDown : Nat → Binary64 → Nat → Option Binary64
  | 0, x, k => x.div (powerOfTen k)
  | steps + 1, x, k =>
    if k ≤ stepLimit then x.div (powerOfTen k)
    else if x.isZero then some x
    else (x.div (powerOfTen stepLimit)).bind fun y => scaleDown steps y (k - stepLimit)

/-- `x` multiplied by `10 ^ k`; nothing when the product lies beyond the greatest number. -/
def scaleUp (x : Binary64) (k : Nat) : Option Binary64 :=
  if k ≤ stepLimit then x.mul (powerOfTen k)
  else if x.isZero then some x
  else none

/-- `± digits · 10 ^ exponent` read by scaling the rounded digits. -/
def ofScaled (negative : Bool) (digits : Nat) (exponent : Int) : Option Binary64 :=
  match ofNat digits with
  | none => none
  | some x =>
    let scaled :=
      if 0 ≤ exponent then x.scaleUp exponent.toNat
      else scaleDown ((-exponent).toNat / stepLimit) x (-exponent).toNat
    scaled.map fun y => { y with negative := negative }

end Binary64

end StatementProfiles
