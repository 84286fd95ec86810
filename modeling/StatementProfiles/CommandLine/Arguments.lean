/-!
# Arguments

What the program is asked to do is written as options and words. The first word names a command; the options for the
source of profiles may stand before it or behind it, and those behind it count if there are any.
-/

namespace StatementProfiles.CommandLine

/-- What the program is asked to do. -/
inductive Command where
  /-- List what is registered. -/
  | list
  /-- Walk a pattern through templates. -/
  | sequence (pattern : String) (templates : List String)
  /-- Check a statement in a file against a template. -/
  | validate (template statement : String)
deriving DecidableEq, Repr, Inhabited

/-- A command with the source of its profiles. -/
structure Invocation where
  /-- Directories with profiles. -/
  profiles : List String
  /-- The file of a configuration. -/
  config : Option String
  command : Command
deriving DecidableEq, Repr, Inhabited

/-- What arguments ask for. -/
inductive Request where
  | run (invocation : Invocation)
  /-- To be told what arguments there are. -/
  | help
  /-- Nothing: they are no arguments of the program. -/
  | misuse
deriving DecidableEq, Repr, Inhabited

/-- An option. -/
inductive Flag where
  | profiles
  | config
  | debug
  | pattern
  | template
  | help
deriving DecidableEq, Repr, Inhabited

/-- Where an argument stands: before the command, or behind one. -/
inductive Scope where
  | program
  | list
  | sequence
  | validate
deriving DecidableEq, Repr, Inhabited

namespace Flag

/-- The options in the order in which they are looked for. -/
def all : List Flag := [.pattern, .template, .profiles, .config, .debug, .help]

/-- The name behind two dashes. -/
def long : Flag → String
  | .profiles => "profiles"
  | .config => "config"
  | .debug => "debug"
  | .pattern => "pattern"
  | .template => "template"
  | .help => "help"

/-- The letter behind one dash. -/
def short : Flag → Char
  | .profiles => 'p'
  | .config => 'c'
  | .debug => 'd'
  | .pattern => 'p'
  | .template => 't'
  | .help => 'h'

/-- Whether a value follows. -/
def hasValue : Flag → Bool
  | .debug | .help => false
  | _ => true

/-- Whether the value is the name of a file, which cannot be empty. -/
def isName : Flag → Bool
  | .profiles | .config => true
  | _ => false

/-- Whether the option may stand somewhere. -/
def isIn (scope : Scope) : Flag → Bool
  | .pattern => scope == .sequence
  | .template => scope == .validate
  | _ => true

end Flag

/-- The option with a long name. -/
def Scope.long? (scope : Scope) (name : String) : Option Flag :=
  Flag.all.find? fun f => f.isIn scope && f.long == name

/-- The option with a letter. -/
def Scope.short? (scope : Scope) (letter : Char) : Option Flag :=
  Flag.all.find? fun f => f.isIn scope && f.short == letter

/-! ## Arguments as items -/

/-- What an argument says. -/
inductive Item where
  | option (flag : Flag) (value : String)
  | word (text : String)
  /-- An argument that says nothing the program knows. -/
  | unknown
deriving DecidableEq, Repr, Inhabited

/-- Whether an argument is an option rather than a value. -/
def isDashed (argument : String) : Bool :=
  match argument.toList with
  | '-' :: _ :: _ => true
  | _ => false

/-- The name and the value of a long option, from behind its dashes. -/
def splitValue : List Char → List Char × Option (List Char)
  | [] => ([], none)
  | '=' :: rest => ([], some rest)
  | c :: rest => (c :: (splitValue rest).1, (splitValue rest).2)

/-- The options of letters behind one dash, and the last of them if its value is in the next argument. -/
def letters (scope : Scope) : List Char → List Item × Option Flag
  | [] => ([], none)
  | c :: rest =>
    match scope.short? c with
    | none => ([.unknown], none)
    | some flag =>
      if flag.hasValue then
        match rest with
        | [] => ([], some flag)
        | '=' :: value => ([.option flag (String.ofList value)], none)
        | value => ([.option flag (String.ofList value)], none)
      else
        let (more, open?) := letters scope rest
        (.option flag "" :: more, open?)

/-- The options that an argument with a dash gives by itself, and the last of them if its value is in the next
argument. -/
def dashed (scope : Scope) : List Char → List Item × Option Flag
  | '-' :: '-' :: name =>
    let (name, value) := splitValue name
    match scope.long? (String.ofList name), value with
    | none, _ => ([.unknown], none)
    | some flag, some value =>
      if flag.hasValue then ([.option flag (String.ofList value)], none) else ([.unknown], none)
    | some flag, none => if flag.hasValue then ([], some flag) else ([.option flag ""], none)
  | '-' :: cs => letters scope cs
  | _ => ([.unknown], none)

/-- What arguments say one after another. Behind two dashes alone everything is a word. -/
def items (scope : Scope) : List String → List Item
  | [] => []
  | "--" :: rest => rest.map Item.word
  | a :: rest =>
    if isDashed a then
      match dashed scope a.toList with
      | (found, none) => found ++ items scope rest
      | (found, some flag) => match rest with
        | [] => found ++ [.unknown]
        | value :: rest =>
          if isDashed value then found ++ [.unknown] else found ++ .option flag value :: items scope rest
    else .word a :: items scope rest

/-- The arguments before the command, and the command with what follows it. -/
def splitCommand : List String → List String × List String
  | [] => ([], [])
  | "--" :: rest => ("--" :: rest, [])
  | a :: rest =>
    if isDashed a then
      match (dashed .program a.toList).2, rest with
      | none, rest => (a :: (splitCommand rest).1, (splitCommand rest).2)
      | some _, [] => ([a], [])
      | some _, value :: rest => (a :: value :: (splitCommand rest).1, (splitCommand rest).2)
    else ([], a :: rest)

/-! ## Gathering -/

/-- What has been said so far. -/
structure Gathered where
  profiles : List String := []
  config : Option String := none
  debug : Bool := false
  pattern : Option String := none
  template : Option String := none
  words : List String := []
deriving DecidableEq, Repr, Inhabited

/-- A value that may be given once. -/
def once (present : Option String) (value : String) : Except Request (Option String) :=
  if present.isSome then .error .misuse else .ok (some value)

namespace Gathered

/-- What has been said, with an option. -/
def addOption (g : Gathered) (flag : Flag) (value : String) : Except Request Gathered :=
  if flag.isName && value.isEmpty then .error .misuse
  else match flag with
    | .profiles => .ok { g with profiles := g.profiles ++ [value] }
    | .config => (once g.config value).map fun v => { g with config := v }
    | .debug => if g.debug then .error .misuse else .ok { g with debug := true }
    | .pattern => (once g.pattern value).map fun v => { g with pattern := v }
    | .template => (once g.template value).map fun v => { g with template := v }
    | .help => .error .help

/-- The number of words that may stand somewhere. -/
def mostWords : Scope → Option Nat
  | .program | .list => some 0
  | .sequence => none
  | .validate => some 1

/-- What has been said, with a word. -/
def addWord (scope : Scope) (g : Gathered) (text : String) : Except Request Gathered :=
  if (mostWords scope).any (· ≤ g.words.length) || (scope == .validate && text.isEmpty) then .error .misuse
  else .ok { g with words := g.words ++ [text] }

/-- What has been said, with an item. -/
def add (scope : Scope) (g : Gathered) : Item → Except Request Gathered
  | .option flag value => g.addOption flag value
  | .word text => g.addWord scope text
  | .unknown => .error .misuse

/-- What items say together. -/
def addAll (scope : Scope) : Gathered → List Item → Except Request Gathered
  | g, [] => .ok g
  | g, i :: rest => match g.add scope i with
    | .error stop => .error stop
    | .ok g => addAll scope g rest

/-- The command of a scope, when all is there that it needs. -/
def command? (g : Gathered) : Scope → Option Command
  | .program => none
  | .list => some .list
  | .sequence => match g.pattern, g.words with
    | some pattern, word :: words => some (.sequence pattern (word :: words))
    | _, _ => none
  | .validate => match g.template, g.words with
    | some template, [statement] => some (.validate template statement)
    | _, _ => none

end Gathered

/-- The scope behind a command. -/
def scope? (command : String) : Option Scope :=
  match command with
  | "list" => some .list
  | "sequence" => some .sequence
  | "validate" => some .validate
  | _ => none

/-- Whether words behind `help` name something that there is help for. -/
def isHelpTopic : List String → Bool
  | [] => true
  | [command] => (scope? command).isSome || command == "help"
  | _ => false

/-- What follows the options before a command, in the scope behind it. -/
def requestIn (scope : Scope) (outer : Gathered) (arguments : List String) : Request :=
  match Gathered.addAll scope {} (items scope arguments) with
  | .error stop => stop
  | .ok g => match g.command? scope with
    | none => .misuse
    | some command =>
      let profiles := if g.profiles.isEmpty then outer.profiles else g.profiles
      .run ⟨profiles, g.config.or outer.config, command⟩

/-- What arguments ask for. -/
def request (arguments : List String) : Request :=
  let (before, behind) := splitCommand arguments
  match Gathered.addAll .program {} (items .program before), behind with
  | .error stop, _ => stop
  | .ok _, [] => .misuse
  | .ok outer, name :: rest =>
    match scope? name with
    | some scope => requestIn scope outer rest
    | none => if name == "help" && isHelpTopic rest then .help else .misuse

end StatementProfiles.CommandLine
