import StatementProfiles.CommandLine.Arguments
import StatementProfiles.Json.Reader
import StatementProfiles.Registry.Load
import StatementProfiles.Registry.Statement

/-!
# Commands

`CommandLine.run` carries a command out: it loads the profiles and answers with lines for the standard output, lines for
the standard error and an exit code. A failure is told on the standard error, with its cause when it has one.
-/

namespace StatementProfiles.CommandLine

/-- What the program answers. -/
structure Outcome where
  code : Nat
  out : String
  err : String
deriving DecidableEq, Repr, Inhabited

/-- Why a command fails. -/
structure Failure where
  message : String
  cause : Option String
deriving DecidableEq, Repr, Inhabited

/-- An error of the library as a failure. -/
def Failure.ofError (e : Error) : Failure := ⟨e.message, none⟩

/-- The wording of a failure. -/
def Failure.text (f : Failure) : String :=
  "Error: " ++ f.message ++ "\n" ++ match f.cause with
    | some cause => "\nCaused by:\n    " ++ cause ++ "\n"
    | none => ""

/-- Lines as text. -/
def lines (ls : List String) : String := String.join (ls.map fun l => l ++ "\n")

/-- The outcome of a command that succeeds with lines for the standard output. -/
def succeed (out : List String) : Outcome := ⟨0, lines out, ""⟩

/-- The outcome of a command that fails after lines for the standard output. -/
def fail (out : List String) (f : Failure) : Outcome := ⟨1, lines out, f.text⟩

/-- The failure of a command without a directory to load profiles from. -/
def noDirectories : Failure := ⟨"no profile directories given; use --profiles or --config", none⟩

/-! ## The commands -/

/-- The list of what is registered, with the counts on the standard error. -/
def list (r : Registry) : Outcome :=
  let m := r.metadata
  let profile (p : Profile) := "profile  " ++ p.id ++ "  " ++ p.label r.options.language
  let template (t : Template) := "template " ++ t.id ++ "  " ++ t.label r.options.language
  let pattern (p : PatternDefinition) := "pattern  " ++ p.id ++ if p.primary then " (primary)" else ""
  let out := r.profiles.map profile ++ r.templates.map template ++ r.patterns.map pattern
  let counts := s!"{m.profiles} profiles, {m.templates} templates, {m.patterns} patterns, "
    ++ s!"{m.failedFiles} files skipped"
  ⟨0, lines out, lines [counts]⟩

/-- The walk of a run through templates, after the lines that are written already. -/
def walk (r : Registry) : Occurrence → (out : List String) → List String → Outcome
  | o, out, [] => succeed (out ++ ["pattern is " ++ if o.isComplete then "complete" else "incomplete"])
  | o, out, name :: rest =>
    match r.template? name with
    | .error e => fail out (.ofError e)
    | .ok t => match o.append t.id with
      | (.ok (), o) => walk r o (out ++ ["  accepted " ++ t.id]) rest
      | (.error e, _) => fail (out ++ ["  rejected " ++ t.id]) (.ofError e)

/-- The walk of a new run of a pattern through templates. -/
def sequence (r : Registry) (registration : Uuid) (pattern : String) (templates : List String) : Outcome :=
  match (r.occurrence pattern registration).1 with
  | .error e => fail [] (.ofError e)
  | .ok o =>
    let head := "pattern " ++ o.state.patternId ++ " as registration " ++ o.registration.render
    walk r o [head] templates

/-- The statement in a file. -/
def readStatement (files : Files) (name : String) : Except Failure Json :=
  match files.read name with
  | .error fault => .error ⟨"reading " ++ name, some fault.message⟩
  | .ok octets => match Json.parseOctets? octets with
    | some j => .ok j
    | none => .error ⟨"parsing " ++ name, some malformedText⟩

/-- The check of a statement in a file against a template. -/
def validate (files : Files) (r : Registry) (template statement : String) : Outcome :=
  match r.template? template with
  | .error e => fail [] (.ofError e)
  | .ok t => match readStatement files statement with
    | .error f => fail [] f
    | .ok j => match t.validate r.options.validation j with
      | .error e => fail [] (.ofError e)
      | .ok () => succeed ["statement matches " ++ t.id]

/-! ## Running -/

/-- The configuration of an invocation: that of its file, with its directories behind those of the file. -/
def Invocation.configuration (i : Invocation) (files : Files) : Except Error Config :=
  let base : Except Error Config := match i.config with
    | some name => Config.ofFile files name
    | none => .ok {}
  base.map fun c => { c with profileDirs := c.profileDirs ++ i.profiles }

/-- The outcome of a command on a registry. -/
def perform (files : Files) (registration : Uuid) (r : Registry) : Command → Outcome
  | .list => list r
  | .sequence pattern templates => sequence r registration pattern templates
  | .validate template statement => validate files r template statement

/-- The outcome of an invocation; a new run of a pattern has the given registration. -/
def run (files : Files) (registration : Uuid) (i : Invocation) : Outcome :=
  match i.configuration files with
  | .error e => fail [] (.ofError e)
  | .ok c =>
    if c.profileDirs.isEmpty then fail [] noDirectories
    else match Registry.load files c with
      | .error e => fail [] (.ofError e)
      | .ok r => perform files registration r i.command

end StatementProfiles.CommandLine
