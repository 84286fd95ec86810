import StatementProfiles.Decimal.Shortest
import StatementProfiles.Json.Basic

/-!
# The text of a JSON value

`Json.render` writes a value without spaces, members in the order of their keys. Strings escape the quote, the
backslash and the control characters below the space; every other character stands for itself.
-/

namespace StatementProfiles

/-- The text of a number. -/
def Number.render : Number → String
  | .int i => toString i
  | .real x => x.render

namespace Json

/-- A hexadecimal digit in lower case. -/
def hexDigit (n : Nat) : Char :=
  if n < 10 then Char.ofNat (n + '0'.toNat) else Char.ofNat (n - 10 + 'a'.toNat)

/-- A character of a quoted string. -/
def escapeChar (c : Char) : String :=
  if c = '"' then "\\\""
  else if c = '\\' then "\\\\"
  else if c = '\n' then "\\n"
  else if c = '\r' then "\\r"
  else if c = '\t' then "\\t"
  else if c = Char.ofNat 8 then "\\b"
  else if c = Char.ofNat 12 then "\\f"
  else if c.toNat < 32 then "\\u00" ++ String.ofList [hexDigit (c.toNat / 16), hexDigit (c.toNat % 16)]
  else c.toString

/-- A string in quotes. -/
def quote (s : String) : String :=
  s.toList.foldl (fun text c => text ++ escapeChar c) "\"" ++ "\""

mutual

/-- The text of a value. -/
def render : Json → String
  | .null => "null"
  | .bool b => if b then "true" else "false"
  | .number n => n.render
  | .string s => quote s
  | .array items => "[" ++ ",".intercalate (renderItems items) ++ "]"
  | .object members => "\x7b" ++ ",".intercalate (renderMembers members) ++ "\x7d"
termination_by structural j => j

/-- The texts of the items. -/
def renderItems : List Json → List String
  | [] => []
  | j :: js => render j :: renderItems js
termination_by structural js => js

/-- The texts of the members, each a quoted key, a colon and the text of the value. -/
def renderMembers : List (String × Json) → List String
  | [] => []
  | (k, j) :: js => (quote k ++ ":" ++ render j) :: renderMembers js
termination_by structural ms => ms

end

end Json

end StatementProfiles
