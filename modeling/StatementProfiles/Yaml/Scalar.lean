import StatementProfiles.Json.Basic
import StatementProfiles.Text.Blank

/-!
# Plain scalars of YAML

An unquoted scalar is a text until a value of some type is asked for. `Yaml.resolve` types it where any value will do:
null, a truth value, an integer in base 10, 16, 8 or 2, a number, and otherwise the text itself. Digits after a leading
zero are a text. An integer beyond 64 bits has no value.
-/

namespace StatementProfiles

namespace Yaml

/-- Whether a plain scalar says null in so many words. -/
def isNullWord (s : String) : Bool := s == "null" || s == "Null" || s == "NULL" || s == "~"

/-- The truth value that a plain scalar spells. -/
def truth? (s : String) : Option Bool :=
  if s == "true" || s == "True" || s == "TRUE" then some true
  else if s == "false" || s == "False" || s == "FALSE" then some false
  else none

/-- The digits of a number in a base up to sixteen, at least one. -/
def digits? (base : Nat) (cs : List Char) : Option Nat :=
  if cs.isEmpty then none
  else cs.foldl (fun n c => n.bind fun v => (Text.hexValue? c).bind fun d =>
    if d < base then some (v * base + d) else none) (some 0)

/-- The base and the digits after a base prefix. -/
def based : List Char → Option (Nat × List Char)
  | '0' :: 'x' :: rest => some (16, rest)
  | '0' :: 'o' :: rest => some (8, rest)
  | '0' :: 'b' :: rest => some (2, rest)
  | _ => none

/-- A sign in front, and the rest. -/
def unsigned : List Char → List Char
  | '+' :: rest => rest
  | '-' :: rest => rest
  | cs => cs

/-- Whether the scalar is a leading zero followed by digits only, which is a text. -/
def isZeroPadded (cs : List Char) : Bool :=
  match unsigned cs with
  | '0' :: rest => !rest.isEmpty && rest.all Text.isDigit
  | _ => false

/-- The magnitude of an integer without its sign. -/
def magnitude? (cs : List Char) : Option Nat :=
  match based cs with
  | some (base, rest) => digits? base rest
  | none => digits? 10 cs

/-- The integer that a plain scalar spells, of any size. -/
def integer? (cs : List Char) : Option Int :=
  if isZeroPadded cs then none
  else match cs with
    | '-' :: rest => (magnitude? rest).map fun n => -(n : Int)
    | '+' :: rest => (magnitude? rest).map fun n => (n : Int)
    | _ => (magnitude? cs).map fun n => (n : Int)

/-- The exponent after the mantissa of a decimal: nothing, or `e` with a sign and digits. -/
def exponent? : List Char → Option Int
  | [] => some 0
  | e :: rest =>
    if e == 'e' || e == 'E' then
      let ds := unsigned rest
      if ds.isEmpty || !ds.all Text.isDigit then none
      else
        let n : Int := Text.digitsValue ds
        some (if rest.head? == some '-' then -n else n)
    else none

/-- The finite number of a decimal notation with optional sign, point and exponent. -/
def decimal? (cs : List Char) : Option Binary64 :=
  let body := unsigned cs
  let whole := body.takeWhile Text.isDigit
  let afterWhole := body.dropWhile Text.isDigit
  let fraction := match afterWhole with
    | '.' :: rest => rest.takeWhile Text.isDigit
    | _ => []
  let tail := match afterWhole with
    | '.' :: rest => rest.dropWhile Text.isDigit
    | _ => afterWhole
  if whole.isEmpty && fraction.isEmpty then none
  else (exponent? tail).bind fun e =>
    Binary64.ofDecimal (cs.head? == some '-') (Text.digitsValue (whole ++ fraction)) (e - fraction.length)

/-- Whether a plain scalar names an infinity or the number that is none. -/
def isUnboundedWord (s : String) : Bool :=
  ["", "+", "-"].any (fun sign => [".inf", ".Inf", ".INF"].any fun w => s == sign ++ w)
    || s == ".nan" || s == ".NaN" || s == ".NAN"

/-- The number of a decimal notation; the infinities and the number that is none have no JSON number, and are null. -/
def float? (s : String) : Option Json :=
  if isUnboundedWord s then some .null
  else if isZeroPadded s.toList then none
  else (decimal? s.toList).map fun x => .number (.real x)

/-- A number or a text: the value of a scalar that is neither null, nor a truth value, nor an integer. -/
def floatOrText (s : String) : Json := (float? s).getD (.string s)

/-- The value of an integer, up to 64 bits. -/
def boundedInteger? (i : Int) : Option Json :=
  if Number.leastInt ≤ i && i ≤ Number.greatestInt then some (.int i) else none

/-- The value of a scalar that spells an integer: beyond 64 bits it has none, and beyond 128 bits it is no integer. -/
def integerValue (s : String) (i : Int) : Option Json :=
  if -0x80000000000000000000000000000000 ≤ i && i ≤ 0xffffffffffffffffffffffffffffffff then boundedInteger? i
  else some (floatOrText s)

/-- The value of a plain scalar where any value will do. -/
def resolve (s : String) : Option Json :=
  if s.isEmpty || isNullWord s then some .null
  else match truth? s with
    | some b => some (.bool b)
    | none => match integer? s.toList with
      | some i => integerValue s i
      | none => some (floatOrText s)

end Yaml

end StatementProfiles
