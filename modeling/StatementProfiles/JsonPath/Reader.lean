import StatementProfiles.JsonPath.Basic
import StatementProfiles.Text.Blank

/-!
# Reading paths

`JsonPath.parse?` reads a query in the notation of RFC 9535. Integers lie within `±(2 ^ 53 - 1)` and have no leading
zeros. Blanks may stand between segments, inside brackets and inside bare names, and brackets may be nested to a depth
of 128. Each function takes the characters from where it stands and returns what it read and the rest.
-/

namespace StatementProfiles

namespace JsonPath

/-- A blank of the path language. -/
def isSpace (c : Char) : Bool := c == ' ' || c == '\t' || c == '\n' || c == '\r'

/-- The rest after blanks. -/
def skipSpace (cs : List Char) : List Char := cs.dropWhile isSpace

/-! ## Names and strings -/

/-- A character that a bare name may start with. -/
def isNameFirst (c : Char) : Bool :=
  ('a' ≤ c && c ≤ 'z') || ('A' ≤ c && c ≤ 'Z') || c == '_' || c.toNat ≥ 0x80

/-- A further character of a bare name. -/
def isNameChar (c : Char) : Bool := isNameFirst c || Text.isDigit c

/-- The characters of a bare name behind its first one. Blanks belong to the name where more of it follows. -/
def nameRest : List Char → List Char × List Char
  | [] => ([], [])
  | c :: rest =>
    if isNameChar c then
      let (more, after) := nameRest rest
      (c :: more, after)
    else if isSpace c then
      match nameRest rest with
      | ([], _) => ([], c :: rest)
      | (more, after) => (c :: more, after)
    else ([], c :: rest)

/-- A bare name, without the white space around it. -/
def bareName? (cs : List Char) : Option (String × List Char) :=
  match skipSpace cs with
  | c :: rest =>
    if isNameFirst c then
      let (more, after) := nameRest rest
      some (String.ofList (Text.trimChars (c :: more)), after)
    else none
  | [] => none

/-- Whether white space stands here, where none may stand. -/
def startsBlank (cs : List Char) : Bool := cs.head?.any isBlank

/-- The character of an escape of one letter, between quotes of a sort. -/
def escaped? (quote c : Char) : Option Char :=
  if c == quote || c == '/' || c == '\\' then some c
  else if c == 'b' then some (Char.ofNat 8)
  else if c == 'f' then some (Char.ofNat 12)
  else if c == 'n' then some '\n'
  else if c == 'r' then some '\r'
  else if c == 't' then some '\t'
  else none

/-- The characters up to the closing quote, and the rest behind it. -/
def quotedChars? (quote : Char) : List Char → Option (List Char × List Char)
  | [] => none
  | '\\' :: 'u' :: a :: b :: c :: d :: rest =>
    match Text.hexDigits? [a, b, c, d] with
    | none => none
    | some high =>
      if 0xDC00 ≤ high && high < 0xE000 then none
      else if 0xD800 ≤ high && high < 0xDC00 then
        match rest with
        | '\\' :: 'u' :: e :: f :: g :: h :: tail =>
          match Text.hexDigits? [e, f, g, h] with
          | none => none
          | some low =>
            if 0xDC00 ≤ low && low < 0xE000 then
              (quotedChars? quote tail).map fun (cs, after) =>
                (Char.ofNat (0x10000 + (high - 0xD800) * 0x400 + (low - 0xDC00)) :: cs, after)
            else none
        | _ => none
      else (quotedChars? quote rest).map fun (cs, after) => (Char.ofNat high :: cs, after)
  | '\\' :: c :: rest =>
    match escaped? quote c with
    | some e => (quotedChars? quote rest).map fun (cs, after) => (e :: cs, after)
    | none => none
  | c :: rest =>
    if c == quote then some ([], rest)
    else if c.toNat < 32 || c == '\\' then none
    else (quotedChars? quote rest).map fun (cs, after) => (c :: cs, after)

/-- A string in quotes of either sort. -/
def quoted? : List Char → Option (String × List Char)
  | c :: rest =>
    if c == '\'' || c == '"' then (quotedChars? c rest).map fun (cs, after) => (String.ofList cs, after) else none
  | [] => none

/-! ## Numbers -/

/-- The greatest integer of the path language. -/
def greatestInt : Nat := 0x1fffffffffffff

/-- The digits of an integer: zero, or digits without a leading zero. -/
def wholeDigits? (cs : List Char) : Option (List Char × List Char) :=
  match cs with
  | '0' :: rest => some (['0'], rest)
  | _ =>
    let ds := cs.takeWhile Text.isDigit
    if ds.isEmpty then none else some (ds, cs.dropWhile Text.isDigit)

/-- An integer up to a bound on either side; there is no negative zero. -/
def integerUpTo? (bound : Nat) (cs : List Char) : Option (Int × List Char) :=
  let negative := cs.head? == some '-'
  (wholeDigits? (if negative then cs.drop 1 else cs)).bind fun (ds, rest) =>
    let n := Text.digitsValue ds
    if n > bound || (negative && n == 0) then none
    else some (if negative then -(n : Int) else (n : Int), rest)

/-- An integer of the path language. -/
def integer? (cs : List Char) : Option (Int × List Char) := integerUpTo? greatestInt cs

/-- The digits of a fraction behind its point. -/
def fraction? : List Char → Option (List Char × List Char)
  | '.' :: rest =>
    let ds := rest.takeWhile Text.isDigit
    if ds.isEmpty then none else some (ds, rest.dropWhile Text.isDigit)
  | cs => some ([], cs)

/-- The exponent behind `e`. -/
def exponent? (cs : List Char) : Option (Option Int × List Char) :=
  match cs with
  | c :: rest =>
    if c == 'e' || c == 'E' then
      let negative := rest.head? == some '-'
      let body := if negative || rest.head? == some '+' then rest.drop 1 else rest
      let ds := body.takeWhile Text.isDigit
      if ds.isEmpty then none
      else
        let n : Int := Text.digitsValue ds
        some (some (if negative then -n else n), body.dropWhile Text.isDigit)
    else some (none, cs)
  | [] => some (none, cs)

/-- A number: an integer within the bounds, or a decimal. A decimal beyond the binary numbers is null. -/
def number? (cs : List Char) : Option (Json × List Char) :=
  let negative := cs.head? == some '-'
  (wholeDigits? (if negative then cs.drop 1 else cs)).bind fun (whole, afterWhole) =>
  (fraction? afterWhole).bind fun (fraction, afterFraction) =>
  (exponent? afterFraction).bind fun (exponent, rest) =>
    if fraction.isEmpty && exponent.isNone then
      let n := Text.digitsValue whole
      if n > greatestInt then none
      else some (.int (if negative then -(n : Int) else (n : Int)), rest)
    else
      let value := Binary64.ofDecimal negative (Text.digitsValue (whole ++ fraction))
        (exponent.getD 0 - fraction.length)
      some (match value with
        | some x => .number (.real x)
        | none => .null, rest)

/-- The rest after a word. -/
def afterWord? (word : String) (cs : List Char) : Option (List Char) :=
  if word.toList.isPrefixOf cs then some (cs.drop word.length) else none

/-- A literal: a number, a string, a truth value or null. -/
def literal? (cs : List Char) : Option (Json × List Char) :=
  match number? cs with
  | some r => some r
  | none => match quoted? cs with
    | some (s, rest) => some (.string s, rest)
    | none => match afterWord? "true" cs with
      | some rest => some (.bool true, rest)
      | none => match afterWord? "false" cs with
        | some rest => some (.bool false, rest)
        | none => (afterWord? "null" cs).map fun rest => (.null, rest)

/-! ## Selectors without conditions -/

/-- An integer, if one stands here. -/
def maybeInteger? (cs : List Char) : Option (Option Int × List Char) :=
  match cs with
  | c :: _ => if c == '-' || Text.isDigit c then (integer? cs).map fun (i, rest) => (some i, rest) else some (none, cs)
  | [] => some (none, [])

/-- The step of a slice behind its second colon. -/
def sliceStep? (cs : List Char) : Option (Option Int × List Char) :=
  match skipSpace cs with
  | ':' :: rest =>
    (maybeInteger? (skipSpace rest)).map fun (step, after) =>
      match step with
      | some _ => (step, after)
      | none => (none, rest)
  | _ => some (none, cs)

/-- The end and step of a slice behind its first colon. -/
def sliceRest? (start : Option Int) (cs : List Char) : Option (Selector × List Char) :=
  (maybeInteger? (skipSpace cs)).bind fun (stop, after) =>
    (sliceStep? (if stop.isSome then after else cs)).map fun (step, rest) => (.slice start stop step, rest)

/-- A slice or an index. -/
def indexOrSlice? (cs : List Char) : Option (Selector × List Char) :=
  (maybeInteger? cs).bind fun (start, after) =>
    match skipSpace after with
    | ':' :: rest => sliceRest? start rest
    | _ => start.map fun i => (.index i, after)

/-! ## Single nodes -/

/-- The greatest index in a query for a single node. -/
def greatestIndex : Nat := 0x7fffffffffffffff

/-- One step of a query for a single node. -/
def step? (cs : List Char) : Option (Step × List Char) :=
  match skipSpace cs with
  | '.' :: rest => (bareName? rest).map fun (s, after) => (.name s, after)
  | '[' :: rest =>
    match quoted? (skipSpace rest) with
    | some (s, after) => match skipSpace after with
      | ']' :: tail => some (.name s, tail)
      | _ => none
    | none => (integerUpTo? greatestIndex (skipSpace rest)).bind fun (i, after) =>
      match skipSpace after with
      | ']' :: tail => some (.index i, tail)
      | _ => none
  | _ => none

/-- The steps of a query for a single node, as many as there are. -/
def steps : Nat → List Char → List Step × List Char
  | 0, cs => ([], cs)
  | fuel + 1, cs =>
    match step? cs with
    | some (s, rest) =>
      let (more, after) := steps fuel rest
      (s :: more, after)
    | none => ([], cs)

/-- The origin that a query names. -/
def origin? : List Char → Option (Origin × List Char)
  | '$' :: rest => some (.top, rest)
  | '@' :: rest => some (.current, rest)
  | _ => none

/-- A relation sign. -/
def relation? : List Char → Option (Relation × List Char)
  | '=' :: '=' :: rest => some (.eq, rest)
  | '!' :: '=' :: rest => some (.ne, rest)
  | '<' :: '=' :: rest => some (.le, rest)
  | '>' :: '=' :: rest => some (.ge, rest)
  | '<' :: rest => some (.lt, rest)
  | '>' :: rest => some (.gt, rest)
  | _ => none

/-- The name of a function with its opening parenthesis. -/
def functionName? (cs : List Char) : Option (Function × List Char) :=
  let name := cs.takeWhile fun c => ('a' ≤ c && c ≤ 'z') || c == '_' || Text.isDigit c
  (Function.ofName? (String.ofList name)).bind fun f =>
    match cs.drop name.length with
    | '(' :: rest => some (f, rest)
    | _ => none

/-- Whether an argument may stand in a call of the function: one that counts nodes takes queries only. -/
def mayTake (f : Function) (a : Argument) : Bool :=
  match f, a with
  | .count, .test _ => true
  | .count, _ => false
  | _, _ => true

mutual

/-- The segments of a query, as many as there are. -/
def segments? : Nat → List Char → Option (List Segment × List Char)
  | 0, _ => none
  | fuel + 1, cs =>
    let next (s : Segment) (rest : List Char) : Option (List Segment × List Char) :=
      (segments? fuel rest).map fun (more, after) => (s :: more, after)
    match skipSpace cs with
    | '.' :: '.' :: rest =>
      if startsBlank rest then none
      else match rest with
        | '[' :: rest => (bracket? fuel rest).bind fun (ss, after) => next (.descendant ss) after
        | '*' :: rest => next (.descendant [.wildcard]) rest
        | _ => (bareName? rest).bind fun (s, after) => next (.descendant [.name s]) after
    | '.' :: rest =>
      if startsBlank rest then none
      else match rest with
        | '*' :: rest => next (.child [.wildcard]) rest
        | _ => (bareName? rest).bind fun (s, after) => next (.child [.name s]) after
    | '[' :: rest => (bracket? fuel rest).bind fun (ss, after) => next (.child ss) after
    | _ => some ([], cs)

/-- The selectors behind an opening bracket, up to the closing one. -/
def bracket? : Nat → List Char → Option (List Selector × List Char)
  | 0, _ => none
  | fuel + 1, cs =>
    (selector? fuel (skipSpace cs)).bind fun (s, rest) =>
      match skipSpace rest with
      | ',' :: more => (bracket? fuel more).map fun (ss, after) => (s :: ss, after)
      | ']' :: after => some ([s], after)
      | _ => none

/-- One selector. -/
def selector? : Nat → List Char → Option (Selector × List Char)
  | 0, _ => none
  | fuel + 1, cs =>
    match cs with
    | '*' :: rest => some (.wildcard, rest)
    | '?' :: rest => (condition? fuel (skipSpace rest)).map fun (c, after) => (.filter c, after)
    | '\'' :: _ => (quoted? cs).map fun (s, after) => (.name s, after)
    | '"' :: _ => (quoted? cs).map fun (s, after) => (.name s, after)
    | _ => indexOrSlice? cs

/-- A condition: conjunctions with `||` between them. -/
def condition? : Nat → List Char → Option (Condition × List Char)
  | 0, _ => none
  | fuel + 1, cs =>
    (conjunction? fuel cs).bind fun (c, rest) =>
      match skipSpace rest with
      | '|' :: '|' :: more => (condition? fuel (skipSpace more)).map fun (d, after) => (.either c d, after)
      | _ => some (c, rest)

/-- Basic conditions with `&&` between them. -/
def conjunction? : Nat → List Char → Option (Condition × List Char)
  | 0, _ => none
  | fuel + 1, cs =>
    (basic? fuel cs).bind fun (c, rest) =>
      match skipSpace rest with
      | '&' :: '&' :: more => (conjunction? fuel (skipSpace more)).map fun (d, after) => (.both c d, after)
      | _ => some (c, rest)

/-- A condition in parentheses, a comparison or a test, the first and the last perhaps negated. -/
def basic? : Nat → List Char → Option (Condition × List Char)
  | 0, _ => none
  | fuel + 1, cs =>
    match cs with
    | '!' :: rest =>
      match skipSpace rest with
      | '(' :: body => (parenthesized? fuel body).map fun (c, after) => (.negated c, after)
      | body => (test? fuel body).map fun (t, after) => (.negated (.holds t), after)
    | '(' :: body => parenthesized? fuel body
    | _ =>
      match comparison? fuel cs with
      | some r => some r
      | none => (test? fuel cs).map fun (t, after) => (.holds t, after)

/-- A condition behind an opening parenthesis, with the closing one. -/
def parenthesized? : Nat → List Char → Option (Condition × List Char)
  | 0, _ => none
  | fuel + 1, cs =>
    (condition? fuel (skipSpace cs)).bind fun (c, rest) =>
      match skipSpace rest with
      | ')' :: after => some (c, after)
      | _ => none

/-- Two operands with a relation between them. -/
def comparison? : Nat → List Char → Option (Condition × List Char)
  | 0, _ => none
  | fuel + 1, cs =>
    (operand? fuel cs).bind fun (left, afterLeft) =>
    (relation? (skipSpace afterLeft)).bind fun (relation, afterRelation) =>
    (operand? fuel (skipSpace afterRelation)).map fun (right, after) => (.compare relation left right, after)

/-- A literal, a query for a single node, or a call with a result that can be compared. -/
def operand? : Nat → List Char → Option (Operand × List Char)
  | 0, _ => none
  | fuel + 1, cs =>
    match literal? cs with
    | some (v, rest) => some (.literal v, rest)
    | none => match origin? cs with
      | some (o, rest) =>
        let (ss, after) := steps rest.length rest
        some (.single o ss, after)
      | none => (call? fuel cs).bind fun (f, as, after) =>
        if f.isComparable then some (.call f as, after) else none

/-- A query or a call. -/
def test? : Nat → List Char → Option (Test × List Char)
  | 0, _ => none
  | fuel + 1, cs =>
    match origin? cs with
    | some (o, rest) => (segments? fuel rest).map fun (ss, after) => (.query o ss, after)
    | none => (call? fuel cs).map fun (f, as, after) => (.call f as, after)

/-- A call of a function with as many arguments as it has. -/
def call? : Nat → List Char → Option (Function × List Argument × List Char)
  | 0, _ => none
  | fuel + 1, cs =>
    (functionName? cs).bind fun (f, rest) =>
    (arguments? fuel (skipSpace rest)).bind fun (as, after) =>
      if as.length = f.arity && as.all (mayTake f) then some (f, as, after) else none

/-- Arguments with commas between them, up to the closing parenthesis. -/
def arguments? : Nat → List Char → Option (List Argument × List Char)
  | 0, _ => none
  | fuel + 1, cs =>
    (argument? fuel cs).bind fun (a, rest) =>
      match skipSpace rest with
      | ',' :: more => (arguments? fuel (skipSpace more)).map fun (as, after) => (a :: as, after)
      | ')' :: after => some ([a], after)
      | _ => none

/-- A literal, or else a query or a call, or else a condition. What starts as a literal, a query or a call is no
condition. -/
def argument? : Nat → List Char → Option (Argument × List Char)
  | 0, _ => none
  | fuel + 1, cs =>
    match literal? cs with
    | some (v, rest) => some (.literal v, rest)
    | none => match test? fuel cs with
      | some (t, rest) => some (.test t, rest)
      | none =>
        if (origin? cs).isSome then none else (condition? fuel cs).map fun (c, after) => (.condition c, after)

end

/-! ## Whole queries -/

/-- The greatest depth of brackets and parentheses. -/
def greatestNesting : Nat := 128

/-- How deep brackets and parentheses are nested, from `level` on and at least `most`; those in quotes do not count. -/
def nesting : (quote : Option Char) → (level most : Nat) → List Char → Nat
  | _, _, most, [] => most
  | some q, level, most, '\\' :: _ :: rest => nesting (some q) level most rest
  | some q, level, most, c :: rest => nesting (if c == q then none else some q) level most rest
  | none, level, most, c :: rest =>
    if c == '\'' || c == '"' then nesting (some c) level most rest
    else if c == '(' || c == '[' then nesting none (level + 1) (max most (level + 1)) rest
    else if c == ')' || c == ']' then nesting none (level - 1) most rest
    else nesting none level most rest

/-- The query that a text writes. -/
def parse? (source : String) : Option Query :=
  if nesting none 0 0 source.toList > greatestNesting then none
  else match source.toList with
    | '$' :: rest =>
      match segments? (12 * rest.length + 12) rest with
      | some (ss, []) => some ⟨ss⟩
      | _ => none
    | _ => none

end JsonPath

end StatementProfiles
