import StatementProfiles.Text.Property

/-!
# Letters, digits, words and blanks

The sets of characters that texts are taken apart by: letters; numbers and decimal digits of any script; the characters
of words, which are letters, marks, decimal digits, connectors and joiners; and white space.
-/

namespace StatementProfiles

namespace CharSet

/-- The letters of all scripts, and other alphabetic characters. -/
def letters : CharSet := .unions (["alphabetic"].filterMap Property.find?)

/-- The numbers of all scripts: digits, letters that are numbers, and others. -/
def numbers : CharSet := .unions (["n"].filterMap Category.find?)

/-- The decimal digits of all scripts. -/
def digits : CharSet := .unions (["nd"].filterMap Category.find?)

/-- The characters that words are made of. -/
def wordChars : CharSet :=
  .unions (["alphabetic", "joincontrol"].filterMap Property.find? ++ ["m", "nd", "pc"].filterMap Category.find?)

/-- White space. -/
def blanks : CharSet := .unions (["whitespace"].filterMap Property.find?)

end CharSet

end StatementProfiles
