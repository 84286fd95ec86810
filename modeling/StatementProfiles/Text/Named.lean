import StatementProfiles.Text.Age
import StatementProfiles.Text.Break
import StatementProfiles.Text.Property
import StatementProfiles.Text.Script

/-!
# Sets of characters by name

A property of characters is named by one word (`CharSet.ofName?`: `Lu`, `Greek`, `White_Space`), or by the kind of
property and a value of it (`CharSet.ofValue?`: `script=Greek`). Capitals, blanks, hyphens and low lines in a name do
not matter, nor does `is` in front of it.
-/

namespace StatementProfiles

namespace CharSet

/-- A name in small letters without separators; what is not ASCII falls away. -/
def plainLetters (cs : List Char) : List Char :=
  (cs.filter fun c => c.toNat < 128 && c != ' ' && c != '_' && c != '-').map Char.toLower

/-- The name in the form of the tables. What is left of `isc` is no name. -/
def plainName (cs : List Char) : String :=
  match cs with
  | i :: s :: rest =>
    if i.toLower == 'i' && s.toLower == 's' then
      if plainLetters rest == ['c'] then "isc" else String.ofList (plainLetters rest)
    else String.ofList (plainLetters cs)
  | _ => String.ofList (plainLetters cs)

/-- The set with a name: a property, a general category or a script. The names that stand for a kind of property too are
general categories here. -/
def ofName? (cs : List Char) : Option CharSet :=
  let name := plainName cs
  Property.find? name <|> Category.find? name <|> (Script.find? name).map Script.own

/-- The set of a value of a kind of property. -/
def ofValue? (kind value : List Char) : Option CharSet :=
  let value := plainName value
  match plainName kind with
  | "gc" | "generalcategory" => Category.find? value
  | "sc" | "script" => (Script.find? value).map Script.own
  | "scx" | "scriptextensions" => (Script.find? value).map Script.shared
  | "age" => Age.find? value
  | "gcb" | "graphemeclusterbreak" => Break.cluster? value
  | "wb" | "wordbreak" => Break.word? value
  | "sb" | "sentencebreak" => Break.sentence? value
  | _ => Option.none

end CharSet

end StatementProfiles
