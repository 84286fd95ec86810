import StatementProfiles.Text.Blank

/-!
# IRIs

An identifier with a colon is taken for an IRI. An absolute IRI has a scheme (a letter, then letters, digits, `+`, `.`
and `-`), a colon, and at least one more character, none of them white space.
-/

namespace StatementProfiles

/-- Whether an identifier is an IRI rather than a name. -/
def isIri (identifier : String) : Bool := identifier.toList.contains ':'

namespace Iri

/-- An ASCII letter. -/
def isLetter (c : Char) : Bool := ('a' ≤ c && c ≤ 'z') || ('A' ≤ c && c ≤ 'Z')

/-- A character behind the first of a scheme. -/
def isSchemeChar (c : Char) : Bool := isLetter c || Text.isDigit c || c == '+' || c == '.' || c == '-'

/-- Whether a scheme and a colon lie ahead, with more behind them and no white space in it. -/
def isSchemeRest : List Char → Bool
  | [] => false
  | ':' :: rest => !rest.isEmpty && !rest.any isBlank
  | c :: rest => isSchemeChar c && isSchemeRest rest

/-- Whether the characters are those of an absolute IRI. -/
def isAbsoluteChars : List Char → Bool
  | [] => false
  | c :: rest => isLetter c && isSchemeRest rest

end Iri

/-- Whether a text is an absolute IRI. -/
def isAbsoluteIri (s : String) : Bool := Iri.isAbsoluteChars s.toList

end StatementProfiles
