import StatementProfiles.CommandLine.Help

/-!
# The program

The outer layer: it reads the files that an invocation needs, and writes what the library answers.
-/

open StatementProfiles CommandLine

/-- Why the system does not give a file. -/
def readFault : IO.Error → ReadFault
  | .noFileOrDirectory .. => .missing
  | .inappropriateType _ 20 _ => .notDirectory
  | .inappropriateType _ 21 _ => .isDirectory
  | e => .other (toString e)

/-- The octets of a file. -/
def readContents (name : String) : IO (Except ReadFault (List UInt8)) := do
  try
    return .ok (← IO.FS.readBinFile name).toList
  catch e =>
    return .error (readFault e)

/-- The files and directories below a name; only files of profiles are read. -/
partial def readTree (name : String) : IO FileTree := do
  let here ← IO.currentDir
  let mut entries : List (String × FileTree) := []
  for entry in ← (here / name).readDir do
    let below := FileName.within name entry.fileName
    match (← (here / below).symlinkMetadata).type with
    | .dir => entries := (entry.fileName, ← readTree below) :: entries
    | .file =>
      if (profileFormat? entry.fileName).isSome then
        entries := (entry.fileName, .file (← readContents below)) :: entries
    | _ => pure ()
  return .directory entries

/-- The directories among some names. -/
def readDirectories (names : List String) : IO (List (String × FileTree)) := do
  let here ← IO.currentDir
  let mut found : List (String × FileTree) := []
  for name in names do
    if ← (here / name).isDir then
      found := (name, ← readTree name) :: found
  return found

/-- The files that an invocation needs. -/
def observe (i : Invocation) : IO Files := do
  let statement := match i.command with
    | .validate _ statement => [statement]
    | _ => []
  let contents ← (i.config.toList ++ statement).mapM fun name => return (name, ← readContents name)
  let directories ← match i.configuration (.ofSeen contents []) with
    | .ok c => readDirectories c.profileDirs
    | .error _ => pure []
  return .ofSeen contents directories

/-- A registration for a new run of a pattern. -/
def newRegistration : IO Uuid := do
  let octets ← IO.getRandomBytes 16
  return .random (octets.toList.foldl (fun n b => n * 256 + b.toNat) 0)

/-- Runs the program. -/
def main (arguments : List String) : IO UInt32 := do
  let request := request arguments
  let files ← match request with
    | .run i => observe i
    | _ => pure (.ofSeen [] [])
  let outcome := answer files (← newRegistration) request
  (← IO.getStdout).putStr outcome.out
  (← IO.getStderr).putStr outcome.err
  return outcome.code.toUInt32
