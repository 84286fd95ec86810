import StatementProfiles.CommandLine.Run

/-!
# Help

The text that tells what arguments there are, and the outcome of arguments of every sort.
-/

namespace StatementProfiles.CommandLine

/-- The arguments that there are. -/
def help : String := lines [
  "Inspect xAPI profiles and check statements against them",
  "",
  "Usage: statement-profiles [OPTIONS] <COMMAND>",
  "",
  "Commands:",
  "  list                                      List registered profiles, templates and patterns",
  "  sequence --pattern <NAME> <TEMPLATES>...  Walk a pattern through a sequence of templates",
  "  validate --template <NAME> <STATEMENT>    Check a statement file against a template",
  "  help                                      Print this message",
  "",
  "Options:",
  "  -p, --profiles <PROFILES>  Profile directory (repeatable)",
  "  -c, --config <CONFIG>      YAML configuration file",
  "  -d, --debug                Enable debug logging",
  "  -h, --help                 Print help"]

/-- The outcome of what arguments ask for. -/
def answer (files : Files) (registration : Uuid) : Request → Outcome
  | .run i => run files registration i
  | .help => ⟨0, help, ""⟩
  | .misuse => ⟨2, "", help⟩

end StatementProfiles.CommandLine
