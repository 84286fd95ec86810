import StatementProfiles.Error
import StatementProfiles.Files.Name
import StatementProfiles.Members

/-!
# Files and directories

A `FileTree` is a file or a directory with what it holds. `FileTree.files` lists the files of a tree in the order in
which they are visited: by name, a directory at the place of its name. `Files` is what a program sees of a file system.
-/

namespace StatementProfiles

/-- Why a file cannot be read. -/
inductive ReadFault where
  | missing
  /-- A name goes through something that is no directory. -/
  | notDirectory
  | isDirectory
  /-- The octets are no text. -/
  | notText
  /-- Anything else, in the words of the system. -/
  | other (text : String)
deriving DecidableEq, Repr, Inhabited

/-- The wording of a fault. -/
def ReadFault.message : ReadFault → String
  | .missing => missingFile
  | .notDirectory => "Not a directory (os error 20)"
  | .isDirectory => "Is a directory (os error 21)"
  | .notText => "stream did not contain valid UTF-8"
  | .other text => text

/-- The error that a fault is. -/
def ReadFault.toError (f : ReadFault) : Error := .unreadableFile f.message

/-- A file or a directory. -/
inductive FileTree where
  /-- A file with its octets, if they can be read. -/
  | file (contents : Except ReadFault (List UInt8))
  | directory (entries : List (String × FileTree))

/-- A file with its name. -/
structure NamedFile where
  name : String
  contents : Except ReadFault (List UInt8)

namespace FileTree

mutual

/-- The files of a tree with their names below the name of the tree. -/
def files (name : String) : FileTree → List NamedFile
  | .file contents => [⟨name, contents⟩]
  | .directory entries => (Members.ofList (filesOfEntries name entries)).values.flatten
termination_by structural t => t

/-- The files of each entry of a directory. -/
def filesOfEntries (directory : String) : List (String × FileTree) → List (String × List NamedFile)
  | [] => []
  | (name, t) :: rest => (name, files (FileName.within directory name) t) :: filesOfEntries directory rest
termination_by structural es => es

end

/-- What is found by going from a tree, which lies in others, along the parts of a name. -/
def descend : (outer : List FileTree) → FileTree → List String → Except ReadFault FileTree
  | _, t, [] => .ok t
  | outer, .directory entries, part :: rest =>
    if FileName.isIdle part then descend outer (.directory entries) rest
    else if part == ".." then
      match outer with
      | [] => .error .missing
      | t :: ts => descend ts t rest
    else match Members.find? entries part with
      | some t => descend (.directory entries :: outer) t rest
      | none => .error .missing
  | _, .file _, _ :: _ => .error .notDirectory

/-- What a name stands for in a tree; nothing is known of absolute names. -/
def find (t : FileTree) (name : String) : Except ReadFault FileTree :=
  if name.isEmpty || FileName.isAbsolute name then .error .missing else descend [] t (FileName.parts name)

/-- The octets of a file. -/
def octets : FileTree → Except ReadFault (List UInt8)
  | .file contents => contents
  | .directory _ => .error .isDirectory

/-- Whether the tree is a directory. -/
def isDirectory : FileTree → Bool
  | .file _ => false
  | .directory _ => true

/-- The tree with another one put at the parts of a name; directories on the way are made. -/
def put (leaf : FileTree) : List String → FileTree → FileTree
  | [], t =>
    match t, leaf with
    | .directory entries, .directory [] => .directory entries
    | _, _ => leaf
  | part :: rest, t =>
    let entries := match t with
      | .directory entries => entries
      | .file _ => []
    .directory (Members.insert entries part (put leaf rest ((Members.find? entries part).getD (.directory []))))

end FileTree

/-- What a program sees of a file system. -/
structure Files where
  /-- The octets of the file with a name. -/
  read : String → Except ReadFault (List UInt8)
  /-- The files below a directory in the order of their visit, if the name is that of a directory. -/
  list? : String → Option (List NamedFile)

/-- The file system that is a tree. -/
def Files.ofTree (t : FileTree) : Files where
  read name := (t.find name).bind FileTree.octets
  list? name := match t.find name with
    | .ok found => if found.isDirectory then some (found.files name) else none
    | .error _ => none

/-- The file system of which some files have been read and some directories been seen. -/
def Files.ofSeen (contents : List (String × Except ReadFault (List UInt8))) (directories : List (String × FileTree)) :
    Files where
  read name := match contents.find? fun f => f.1 == name with
    | some f => f.2
    | none => .error .missing
  list? name := (directories.find? fun d => d.1 == name).map fun d => d.2.files name

end StatementProfiles
