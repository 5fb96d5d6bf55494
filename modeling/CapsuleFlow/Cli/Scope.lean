import CapsuleFlow.Cli.Grammar

/-!
# Commands in place

A command is read and shown in place: below the commands that lead to it, whose global
options it inherits. Its name on screen is the path of names from the top (`capsule
href encode`). Every command answers `-h`/`--help`; the top one also `-V`/`--version`;
a command with subcommands also has a `help` subcommand.

Usage lines come in two forms. The full form lists the command's path, `[OPTIONS]`
when it has any, its positional arguments and `<COMMAND>` when a subcommand is due.
The form fitted to an error lists instead the options already given, then every
positional argument.
-/

namespace CapsuleFlow.Cli

/-- An argument: an option or a positional one. -/
inductive Arg where
  | option (o : Opt)
  | positional (p : Positional)
  deriving DecidableEq, Repr, Inhabited

namespace Arg

def id : Arg → String
  | .option o => o.id
  | .positional p => p.id

/-- How the value of an option is written after it, or a positional argument alone:
` <NAME>`, `...` for a counter, nothing for a flag. -/
def suffix : Arg → String
  | .option o =>
    match o.kind with
    | .value name .. => s!" <{name}>"
    | .count => "..."
    | .flag => ""
  | .positional p => s!"<{p.valueName}>"

/-- An argument as messages name it: its long name with its value, or `<NAME>`. -/
def display : Arg → String
  | a@(.option o) => "--" ++ o.long ++ a.suffix
  | a@(.positional _) => a.suffix

def isPositional : Arg → Bool
  | .option _ => false
  | .positional _ => true

end Arg

/-- A command in place. -/
structure Scope where
  /-- The names from the top command down to this one. -/
  path : List String
  command : Command
  /-- The global options of the commands above. -/
  inherited : List Opt := []
  deriving Repr, Inhabited

namespace Scope

def top (c : Command) : Scope := { path := [c.name], command := c }

def binName (s : Scope) : String := " ".intercalate s.path

def isTop (s : Scope) : Bool := s.path.length ≤ 1

def declared (s : Scope) : List Opt :=
  s.command.options ++ s.inherited.filter fun g => !s.command.options.any (·.id == g.id)

/-- Whether some option explains its fixed values, which calls for the long form of
help. -/
def hasLongHelp (s : Scope) : Bool := s.declared.any Opt.hasLongHelp

/-- Every option this command reads, help and version last. -/
def options (s : Scope) : List Opt :=
  s.declared ++ [helpOption s.hasLongHelp] ++
    (if s.isTop && s.command.version.isSome then [versionOption] else [])

def positionals (s : Scope) : List Positional := s.command.positionals

/-- Every argument: positional ones first, then options. -/
def args (s : Scope) : List Arg :=
  s.positionals.map .positional ++ s.options.map .option

def findArg? (s : Scope) (id : String) : Option Arg := s.args.find? (·.id == id)

def findLong? (s : Scope) (name : String) : Option Opt := s.options.find? (·.long == name)

def findShort? (s : Scope) (c : Char) : Option Opt := s.options.find? (·.short == some c)

def longNames (s : Scope) : List String := s.options.map (·.long)

/-- Whether the command has subcommands, and so a `help` subcommand. -/
def hasSubcommands (s : Scope) : Bool := !s.command.subcommands.isEmpty

/-- The subcommands with their descriptions, `help` last. -/
def subcommandList (s : Scope) : List (String × String) :=
  if s.hasSubcommands then
    s.command.subcommands.map (fun c => (c.name, c.about)) ++ [("help", helpCommandAbout)]
  else []

/-- The names of the subcommands, `help` last. -/
def subcommandNames (s : Scope) : List String := s.subcommandList.map (·.1)

def child? (s : Scope) (name : String) : Option Scope :=
  (s.command.find? name).map fun c =>
    { path := s.path ++ [name], command := c
      inherited := s.declared.filter (·.global) }

/-- Whether the full usage shows `[OPTIONS]`: some option besides help and version. -/
def needsOptionsTag (s : Scope) : Bool := !s.declared.isEmpty

def usage (s : Scope) : String :=
  " ".intercalate ([s.binName] ++ (if s.needsOptionsTag then ["[OPTIONS]"] else []) ++
    s.positionals.map (fun p => s!"<{p.valueName}>") ++
    (if s.hasSubcommands then ["<COMMAND>"] else []))

/-- The usage line fitted to the arguments given: the options among them, in order and
once each, then every positional argument. -/
def usageGiven (s : Scope) (given : List String) : String :=
  let opts := (given.filterMap fun id =>
    match s.findArg? id with
    | some a@(.option _) => some a.display
    | _ => none).eraseDups
  " ".intercalate ([s.binName] ++ opts ++ s.positionals.map (fun p => s!"<{p.valueName}>") ++
    (if s.hasSubcommands then ["<COMMAND>"] else []))

/-- The usage line for an error: the full one when nothing was given. -/
def usageFor (s : Scope) (given : List String) : String :=
  if given.isEmpty then s.usage else s.usageGiven given

end Scope

end CapsuleFlow.Cli
