import CapsuleFlow.Cli.Scope

/-!
# Help text

Help comes in a short and a long form. The long form is given for `--help` and the
`help` subcommand, and only to a command with an option whose fixed values explain
themselves; otherwise both forms are the short one.

The text is the command's description, its usage, then the sections `Commands`,
`Arguments` and `Options` that have entries. Options are listed by display order, then
by a key: the short name (lowercase first) or else the long name.

In the short form an entry is one line: the argument, padded to a common column, then
its help, its default and its fixed values. The column is two past the widest argument
(options counted with room for a short name). In the long form each entry is the
argument on a line of its own, its help on the next line indented by ten, entries apart
by a blank line, and fixed values listed with what they mean.

Lines are never wrapped: the help of an entry moves to the next line only when it would
end past column 100 while the argument column is past 40.
-/

namespace CapsuleFlow.Cli

def termWidth : Nat := 100

def nextLineIndent : Nat := 10

/-- `n` spaces. -/
def spaces (n : Nat) : String := String.ofList (List.replicate n ' ')

/-- The name of an option as a help entry shows it: `-v, --verbose`, or four spaces
where a short name would stand. -/
def Opt.switches (o : Opt) : String :=
  match o.short with
  | some c => s!"-{c}, --{o.long}"
  | none => s!"    --{o.long}"

def Arg.entry : Arg → String
  | a@(.option o) => o.switches ++ a.suffix
  | a@(.positional _) => a.suffix

/-- The width an argument takes in the column: an option's displayed name and four for a
short name, a positional argument's name alone. -/
def Arg.width (a : Arg) : Nat :=
  if a.isPositional then a.display.length else a.display.length + 4

def Arg.helpIn (long : Bool) : Arg → String
  | .option o => if long then o.longHelp.getD o.help else o.help
  | .positional p => p.help

def Arg.choices : Arg → List Choice
  | .option o =>
    match o.kind with
    | .value _ _ cs _ => cs
    | _ => []
  | .positional _ => []

def Arg.fallback : Arg → Option String
  | .option o =>
    match o.kind with
    | .value _ _ _ d => d
    | _ => none
  | .positional _ => none

def Arg.explainsChoices (long : Bool) (a : Arg) : Bool :=
  long && a.choices.any fun c => !c.help.isEmpty

/-- The notes after an argument's help: its default, and its fixed values unless they
are listed apart. -/
def Arg.notes (long : Bool) (a : Arg) : String :=
  let dflt := (a.fallback.map fun d => s!"[default: {d}]").toList
  let names := ", ".intercalate (a.choices.map (·.name))
  let values := if a.explainsChoices long || a.choices.isEmpty then []
    else [s!"[possible values: {names}]"]
  (if long then "\n" else " ").intercalate (dflt ++ values)

/-- Indents every line after the first. -/
def indentRest (indent : Nat) (s : String) : String :=
  s.replace "\n" ("\n" ++ spaces indent)

def movesDown (longest : Nat) (helpWidth : Nat) : Bool :=
  let taken := longest + 4
  termWidth ≥ taken && taken > 40 && helpWidth > termWidth - taken

def choiceList (indent : Nat) (cs : List Choice) : String :=
  let widest := (cs.map (·.name.length)).foldl max 0
  "Possible values:" ++ String.join (cs.map fun c =>
    let line := if c.help.isEmpty then c.name
      else c.name ++ ": " ++ spaces (widest - c.name.length) ++ c.help
    "\n" ++ spaces indent ++ "- " ++ indentRest (indent + 2) line)

def entry (long nextLine : Bool) (longest : Nat) (a : Arg) : String :=
  let pad := if long || nextLine then 0
    else if a.isPositional then longest + 2 - a.width
    else match a with
      | .option o => longest + (if o.long.isEmpty then 6 else 2) - a.width
      | .positional _ => 0
  let indent := if nextLine then nextLineIndent else longest + 4
  let notes := a.notes long
  let help := a.helpIn long
  let text := if notes.isEmpty then help
    else if help.isEmpty then notes
    else help ++ (if long then "\n\n" else " ") ++ notes
  let lead := if nextLine then "\n" ++ spaces nextLineIndent else ""
  let choices := if a.explainsChoices long then
      (if text.isEmpty then "" else "\n\n" ++ spaces nextLineIndent) ++
        choiceList nextLineIndent a.choices
    else ""
  "  " ++ a.entry ++ spaces pad ++ lead ++ indentRest indent text ++ choices

def entries (long : Bool) (args : List Arg) : String :=
  let longest := (args.map Arg.width).foldl max 2
  let nextLine := long || args.any fun a =>
    movesDown longest ((a.helpIn false).length + (a.notes long).length)
  (if nextLine && long then "\n\n" else "\n").intercalate (args.map (entry long nextLine longest))

/-- The order of options in help: display order, then the short name (lowercase before
uppercase) or the long name. -/
def Opt.sortKey (o : Opt) : Nat × String :=
  match o.short with
  | some c => (o.order, c.toLower.toString ++ (if c.isLower then "0" else "1"))
  | none => (o.order, o.long)

def keyBefore (a b : Nat × String) : Bool :=
  a.1 < b.1 || (a.1 == b.1 && decide (a.2 ≤ b.2))

def commandEntries (cs : List (String × String)) : String :=
  let longest := (cs.map (·.1.length)).foldl max 2
  let nextLine := cs.any fun (_, about) => movesDown longest about.length
  "\n".intercalate (cs.map fun (name, about) =>
    if nextLine then "  " ++ name ++ "\n" ++ spaces nextLineIndent ++ about
    else "  " ++ name ++ spaces (longest + 2 - name.length) ++ indentRest (longest + 4) about)

def trimEnd (s : String) : String :=
  String.ofList (s.toList.reverse.dropWhile (fun c => c == ' ' || c == '\n')).reverse

/-- The help text of a command, ending in a line break. The long form is given when it
is asked for and the command has one. -/
def Scope.helpText (s : Scope) (askLong : Bool) : String :=
  let long := askLong && s.hasLongHelp
  let opts := (s.options.mergeSort fun a b => keyBefore a.sortKey b.sortKey).map Arg.option
  let sections :=
    (if s.hasSubcommands then ["Commands:\n" ++ commandEntries s.subcommandList] else []) ++
    (if s.positionals.isEmpty then []
      else ["Arguments:\n" ++ entries long (s.positionals.map .positional)]) ++
    (if opts.isEmpty then [] else ["Options:\n" ++ entries long opts])
  let about := if s.command.about.isEmpty then "" else s.command.about ++ "\n\n"
  trimEnd (about ++ "Usage: " ++ s.usage ++ "\n\n" ++ "\n\n".intercalate sections) ++ "\n"

/-- The usage line of a command's `help` subcommand. -/
def Scope.helpCommandUsage (s : Scope) : String := s.binName ++ " help [COMMAND]..."

/-- The help text of a command's `help` subcommand: it takes any number of subcommand
names and no options. -/
def Scope.helpCommandText (s : Scope) : String :=
  helpCommandAbout ++ "\n\nUsage: " ++ s.helpCommandUsage ++
    "\n\nArguments:\n  [COMMAND]...  Print help for the subcommand(s)\n"

end CapsuleFlow.Cli
