import StatementProfiles.Config
import StatementProfiles.Profile.Text
import StatementProfiles.Registry.Basic

/-!
# Loading profiles from files

The files of a directory whose extension is that of a profile are registered in the order of their visit. A file that
cannot be read, is no profile or is refused by the registry is passed over and counted, or ends the loading.
-/

namespace StatementProfiles

/-- The format of a profile file by the extension of its name. -/
def profileFormat? (name : String) : Option Format :=
  match ((FileName.parts name).getLast?).bind FileName.extension? with
  | some "json" => some .json
  | some "yml" => some .yaml
  | some "yaml" => some .yaml
  | _ => none

namespace Registry

/-- The profile of a file. -/
def readFile (f : NamedFile) : Except Error Profile :=
  match inContext ("reading " ++ f.name) (f.contents.mapError ReadFault.toError) with
  | .error e => .error e
  | .ok octets => inContext ("profile " ++ f.name) (Profile.read ((profileFormat? f.name).getD .json) octets)

/-- Whether the profile of a file is registered, and the registry after that. -/
def registerFile (r : Registry) (f : NamedFile) : Except Error Unit × Registry :=
  match readFile f with
  | .error e => (.error e, r)
  | .ok p =>
    let (found, r) := r.register p
    (inContext ("registering " ++ f.name) found, r)

/-- The registry with one more file passed over. -/
def passOver (r : Registry) : Registry := { r with failedFiles := r.failedFiles + 1 }

/-- The number of files registered, and the registry with their profiles. -/
def registerFiles (strict : Bool) : Registry → List NamedFile → Except Error Nat × Registry
  | r, [] => (.ok 0, r)
  | r, f :: rest =>
    match r.registerFile f with
    | (.ok (), r) =>
      let (count, r) := registerFiles strict r rest
      (count.map (· + 1), r)
    | (.error e, r) => if strict then (.error e, r) else registerFiles strict r.passOver rest

/-- The files of profiles among files. -/
def profileFiles (fs : List NamedFile) : List NamedFile := fs.filter fun f => (profileFormat? f.name).isSome

/-- The number of files of a directory that were registered, and the registry with their profiles. -/
def loadDirectory (files : Files) (strict : Bool) (r : Registry) (name : String) : Except Error Nat × Registry :=
  match files.list? name with
  | none => (.error (.configuration (.directoryNotFound name)), r)
  | some fs => registerFiles strict r (profileFiles fs)

/-- The registry with the profiles of several directories. -/
def loadDirectories (files : Files) (strict : Bool) : Registry → List String → Except Error Registry
  | r, [] => .ok r
  | r, name :: rest =>
    match loadDirectory files strict r name with
    | (.error e, _) => .error e
    | (.ok _, r) => loadDirectories files strict r rest

/-- The registry of a configuration. -/
def load (files : Files) (c : Config) : Except Error Registry :=
  match c.validate with
  | .error e => .error e
  | .ok () => loadDirectories files c.failOnParseError (empty.withOptions c.buildOptions) c.profileDirs

end Registry

end StatementProfiles
