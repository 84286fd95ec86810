import StatementProfiles.Json.Reader
import StatementProfiles.Profile.Basic
import StatementProfiles.Yaml.Reader

/-!
# Texts of profiles

A profile is written in JSON or YAML. `Profile.read` gives the profile of octets when they are of the format, say what a
profile has to say, and the structure is sound.
-/

namespace StatementProfiles

/-- What octets of a format say, where an outline asks for it. -/
def Format.read (o : Yaml.Outline) : Format → List UInt8 → Option Datum
  | .json, octets => Json.read octets
  | .yaml, octets => Yaml.read o octets

namespace Profile

/-- The profile that octets of a format write. -/
def read (format : Format) (octets : List UInt8) : Except Error Profile :=
  match (format.read outline octets).bind ofDatum? with
  | none => .error (.malformed format)
  | some p => p.validate.map fun _ => p

end Profile

end StatementProfiles
