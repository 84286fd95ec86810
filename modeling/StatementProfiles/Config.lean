import StatementProfiles.Document.Options
import StatementProfiles.Files.Tree
import StatementProfiles.Text.Utf8
import StatementProfiles.Yaml.Reader

/-!
# Configuration

Where profiles are loaded from, and how documents are finished. A configuration is written in YAML; every field has a
value of its own, so a text says only what differs.
-/

namespace StatementProfiles

/-- A configuration. -/
structure Config where
  /-- The directories that profiles are loaded from. -/
  profileDirs : List String := []
  /-- Whether a profile that cannot be loaded ends the loading; otherwise it is passed over. -/
  failOnParseError : Bool := false
  language : String := "en"
  validation : ValidationMode := .failFast
  generateIds : Bool := true
  generateTimestamps : Bool := true
deriving DecidableEq, Repr, Inhabited

namespace Config

/-- The names of the fields in their order. -/
def fieldNames : List String :=
  ["profile_dirs", "fail_on_parse_error", "language", "validation", "generate_ids", "generate_timestamps"]

/-- The parts of a text that matter for a configuration. -/
def outline : Yaml.Outline := .ofFields fieldNames []

/-- A mode as written. -/
def mode? (d : Datum) : Option ValidationMode := d.choice?.bind ValidationMode.ofName?

/-- The configuration as written. -/
def ofDatum? (d : Datum) : Option Config :=
  let base : Config := {}
  (Datum.Slots.of? fieldNames d).bind fun slots =>
  (slots.withDefault? "profile_dirs" base.profileDirs (Datum.list? Datum.text?)).bind fun dirs =>
  (slots.withDefault? "fail_on_parse_error" base.failOnParseError Datum.flag?).bind fun fail =>
  (slots.withDefault? "language" base.language Datum.text?).bind fun language =>
  (slots.withDefault? "validation" base.validation mode?).bind fun validation =>
  (slots.withDefault? "generate_ids" base.generateIds Datum.flag?).bind fun ids =>
  (slots.withDefault? "generate_timestamps" base.generateTimestamps Datum.flag?).map fun timestamps =>
    ⟨dirs, fail, language, validation, ids, timestamps⟩

/-- The configuration as an object. -/
def toJson (c : Config) : Json :=
  .ofPairs [
    ("profile_dirs", .strings c.profileDirs),
    ("fail_on_parse_error", .bool c.failOnParseError),
    ("language", .string c.language),
    ("validation", .string c.validation.name),
    ("generate_ids", .bool c.generateIds),
    ("generate_timestamps", .bool c.generateTimestamps)]

/-- The first obvious mistake in a configuration. -/
def validate (c : Config) : Except Error Unit :=
  if (Text.trim c.language).isEmpty then .error (.configuration .noLanguage)
  else if c.profileDirs.any String.isEmpty then .error (.configuration .emptyDirectory)
  else .ok ()

/-- The configuration of a text. -/
def ofText (text : String) : Except Error Config :=
  match (Yaml.readText outline text).bind ofDatum? with
  | none => .error (.malformed .yaml)
  | some c => c.validate.map fun _ => c

/-- The text of octets. -/
def text (octets : List UInt8) : Except Error String :=
  match Utf8.text? octets with
  | some s => .ok s
  | none => .error ReadFault.notText.toError

/-- The fault of a file whose text is refused. -/
def refusedText (name : String) (e : Error) : Error :=
  .configuration (.stated ("parsing " ++ name ++ ": " ++ e.message))

/-- The configuration with its directories seen from a directory. -/
def seenFrom (c : Config) (directory : String) : Config :=
  { c with profileDirs := c.profileDirs.map (FileName.within directory) }

/-- The configuration of a file; its directories are seen from where the file is. -/
def ofFile (files : Files) (name : String) : Except Error Config :=
  match inContext ("reading " ++ name) (((files.read name).mapError ReadFault.toError).bind text) with
  | .error e => .error e
  | .ok s => ((ofText s).mapError (refusedText name)).map fun c => c.seenFrom (FileName.parent name)

/-- How documents are finished. -/
def buildOptions (c : Config) : BuildOptions := ⟨c.generateIds, c.generateTimestamps, c.language, c.validation⟩

end Config

end StatementProfiles
