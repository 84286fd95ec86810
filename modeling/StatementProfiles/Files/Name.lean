import StatementProfiles.Text.Blank

/-!
# Names of files

A name is written as parts with slashes between them. The functions of this module work on the text of a name alone.
-/

namespace StatementProfiles

namespace FileName

/-- The parts between the slashes. -/
def parts (name : String) : List String := (Text.splitOn '/' name.toList).map String.ofList

/-- Whether a name starts at the root. -/
def isAbsolute (name : String) : Bool := name.toList.head? == some '/'

/-- Whether a part says nothing: it is empty, or a dot. -/
def isIdle (part : String) : Bool := part.isEmpty || part == "."

/-- The parts without those at the end that say nothing; the first part stays. -/
def trimParts : List String → List String
  | [] => []
  | first :: rest => first :: (rest.reverse.dropWhile isIdle).reverse

/-- The name of the directory that holds what a name stands for: empty when the name has one part. -/
def parent (name : String) : String :=
  match trimParts (trimParts (parts name)).dropLast with
  | [""] => "/"
  | ps => "/".intercalate ps

/-- The name of something in a directory; an absolute name stays as it is. -/
def within (directory name : String) : String :=
  if isAbsolute name then name
  else match directory.toList.getLast? with
    | none => name
    | some '/' => directory ++ name
    | some _ => directory ++ "/" ++ name

/-- What follows the last dot of a part; a dot in front of everything counts for nothing. -/
def extension? (part : String) : Option String :=
  match (Text.splitOn '.' part.toList).reverse with
  | last :: before :: rest =>
    if rest.isEmpty && before.isEmpty then none else some (String.ofList last)
  | _ => none

end FileName

end StatementProfiles
