/-!
# White space

The characters with the Unicode property of white space, and trimming by it.
-/

namespace StatementProfiles

/-- Whether a character is white space in Unicode. -/
def isBlank (c : Char) : Bool :=
  let n := c.toNat
  (9 ≤ n && n ≤ 13) || n == 0x20 || n == 0x85 || n == 0xA0 || n == 0x1680 || (0x2000 ≤ n && n ≤ 0x200A)
    || n == 0x2028 || n == 0x2029 || n == 0x202F || n == 0x205F || n == 0x3000

namespace Text

/-- The characters after the leading white space. -/
def trimStart (cs : List Char) : List Char := cs.dropWhile isBlank

/-- The characters without leading and trailing white space. -/
def trimChars (cs : List Char) : List Char := (trimStart (trimStart cs).reverse).reverse

/-- The text without leading and trailing white space. -/
def trim (s : String) : String := String.ofList (trimChars s.toList)

/-- The pieces between the occurrences of a separator, always at least one. -/
def splitOn (separator : Char) : List Char → List (List Char)
  | [] => [[]]
  | c :: rest =>
    let pieces := splitOn separator rest
    if c = separator then [] :: pieces
    else match pieces with
      | [] => [[c]]
      | piece :: others => (c :: piece) :: others

/-- A decimal digit. -/
def isDigit (c : Char) : Bool := '0' ≤ c && c ≤ '9'

/-- The number of a list of decimal digits. -/
def digitsValue (cs : List Char) : Nat := cs.foldl (fun n c => n * 10 + (c.toNat - '0'.toNat)) 0

/-- The value of a hexadecimal digit. -/
def hexValue? (c : Char) : Option Nat :=
  if '0' ≤ c && c ≤ '9' then some (c.toNat - '0'.toNat)
  else if 'a' ≤ c && c ≤ 'f' then some (c.toNat - 'a'.toNat + 10)
  else if 'A' ≤ c && c ≤ 'F' then some (c.toNat - 'A'.toNat + 10)
  else none

/-- The value of a list of hexadecimal digits. -/
def hexDigits? : List Char → Option Nat
  | cs => cs.foldl (fun n c => n.bind fun v => (hexValue? c).map fun d => v * 16 + d) (some 0)

end Text

end StatementProfiles
