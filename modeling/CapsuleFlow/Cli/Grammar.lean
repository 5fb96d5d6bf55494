/-!
# Command-line grammar

A command line is described by a tree of commands. Each command has a name, a one-line
description, options (flags, counters and options taking a value), positional arguments,
and subcommands. Options marked global belong to a command and every command below it.
Every command also answers `-h`/`--help`; the top command answers `-V`/`--version`, and a
command with subcommands has a `help` subcommand.

Options carry a display order: a command's own options are numbered in the order they are
declared, global options keep the numbers they have where they are declared, and the
help and version options come last.
-/

namespace CapsuleFlow.Cli

/-- How an option's value is checked. -/
inductive ValueCheck where
  /-- Any text but the empty text. -/
  | path
  /-- Any text. -/
  | text
  /-- A natural number that fits in 32 bits. -/
  | u32
  /-- A natural number that fits in 64 bits. -/
  | usize
  /-- A digest algorithm name. -/
  | algorithm
  deriving DecidableEq, Repr, Inhabited

/-- One of the fixed values an option accepts, with what it means. -/
structure Choice where
  name : String
  help : String := ""
  deriving DecidableEq, Repr, Inhabited

/-- What an option does when given. -/
inductive OptionKind where
  /-- Counts how often it is given. -/
  | count
  /-- Is set when given. -/
  | flag
  /-- Takes a value, named `valueName` in help, checked by `check`, or one of `choices`
  when there are any. -/
  | value (valueName : String) (check : ValueCheck) (choices : List Choice) (fallback : Option String)
  deriving DecidableEq, Repr, Inhabited

/-- An option. -/
structure Opt where
  id : String
  short : Option Char := none
  long : String
  kind : OptionKind
  help : String
  /-- The help in the long form of help, when it differs. -/
  longHelp : Option String := none
  global : Bool := false
  order : Nat
  deriving DecidableEq, Repr, Inhabited

/-- A positional argument. -/
structure Positional where
  id : String
  valueName : String
  help : String := ""
  check : ValueCheck
  deriving DecidableEq, Repr, Inhabited

/-- A command. -/
inductive Command where
  | mk (name about : String) (options : List Opt) (positionals : List Positional)
      (subcommands : List Command) (version : Option String)
  deriving Repr, Inhabited

namespace Command

def name : Command → String
  | .mk n .. => n

def about : Command → String
  | .mk _ a .. => a

def options : Command → List Opt
  | .mk _ _ os .. => os

def positionals : Command → List Positional
  | .mk _ _ _ ps .. => ps

def subcommands : Command → List Command
  | .mk _ _ _ _ cs _ => cs

def version : Command → Option String
  | .mk _ _ _ _ _ v => v

def find? (c : Command) (name : String) : Option Command :=
  c.subcommands.find? (·.name == name)

end Command

def helpOption (longHelp : Bool) : Opt :=
  { id := "help", short := some 'h', long := "help", kind := .flag, order := 999
    help := if longHelp then "Print help (see more with \x27--help\x27)" else "Print help"
    longHelp := if longHelp then some "Print help (see a summary with \x27-h\x27)" else none }

def versionOption : Opt :=
  { id := "version", short := some 'V', long := "version", kind := .flag, order := 999
    help := "Print version" }

def helpCommandAbout : String := "Print this message or the help of the given subcommand(s)"

/-- Whether an option's fixed values explain themselves, which calls for the long form of
help. -/
def Opt.hasLongHelp (o : Opt) : Bool :=
  match o.kind with
  | .value _ _ choices _ => choices.any fun c => !c.help.isEmpty
  | _ => false

/-! ## The harness command line -/

def globalOptions : List Opt :=
  [{ id := "verbose", short := some 'v', long := "verbose", kind := .count, global := true, order := 0
     help := "Enable verbose output. Repeat for more verbosity (-v, -vv, -vvv)" },
   { id := "config", long := "config", kind := .value "CONFIG" .path [] none, global := true, order := 1
     help := "Path to a harness configuration file (JSON or YAML)" },
   { id := "decimals", long := "decimals", kind := .value "DECIMALS" .u32 [] none, global := true
     order := 2, help := "Decimal places kept when canonicalizing numbers" },
   { id := "no_nfc", long := "no-nfc", kind := .flag, global := true, order := 3
     help := "Disable NFC normalization of strings" },
   { id := "log_json", long := "log-json", kind := .flag, global := true, order := 4
     help := "Emit logs as JSON lines" }]

/-- `run FLOW [--out FILE] [--adapter mock|noop]`. -/
def runCommand : Command :=
  .mk "run" "Run a flow and report failures, trace and observer state"
    [{ id := "out", long := "out", kind := .value "FILE" .path [] none, order := 0
       help := "Write the result document here instead of stdout" },
     { id := "adapter", long := "adapter", order := 1
       kind := .value "ADAPTER" .text [⟨"mock", "Deterministic mock responses"⟩,
         ⟨"noop", "Accept everything silently"⟩] none
       help := "Dispatch every loaded capsule to an adapter. Structural-only when omitted" }]
    [{ id := "flow", valueName := "FLOW", help := "Flow file (JSON or YAML)", check := .path }]
    [] none

/-- `canon FILE`. -/
def canonCommand : Command :=
  .mk "canon" "Print the canonical form of a document" []
    [{ id := "file", valueName := "FILE", help := "Document to canonicalize", check := .path }] [] none

/-- `hash FILE [--algorithm A] [--length N] [--role capsule|policy]`. -/
def hashCommand : Command :=
  .mk "hash" "Print the digest and prefixed identifier of a document"
    [{ id := "algorithm", long := "algorithm", kind := .value "ALGORITHM" .algorithm [] none, order := 0
       help := "Digest algorithm (blake3 or sha256). Defaults to the configured one" },
     { id := "length", long := "length", kind := .value "LENGTH" .usize [] none, order := 1
       help := "Digest length in bytes (BLAKE3 only)" },
     { id := "role", long := "role", order := 2, help := ""
       kind := .value "ROLE" .text [⟨"capsule", "`cap_<hex>`"⟩, ⟨"policy", "`pc_<hex>`"⟩] (some "capsule") }]
    [{ id := "file", valueName := "FILE", help := "Document to hash", check := .path }] [] none

/-- `validate SCHEMA CAPSULE`. -/
def validateCommand : Command :=
  .mk "validate" "Validate a capsule against a JSON Schema" []
    [{ id := "schema", valueName := "SCHEMA", help := "JSON Schema file", check := .path },
     { id := "capsule", valueName := "CAPSULE", help := "Capsule document (JSON or YAML)", check := .path }]
    [] none

/-- `href encode JSON` and `href parse LINE`. -/
def hrefCommand : Command :=
  .mk "href" "Encode or parse HREF v1 reference lines" [] []
    [.mk "encode" "Render a line from a JSON object with `comp`, `pc`, `cap`, `head` and `hot`" []
       [{ id := "json", valueName := "JSON", check := .text }] [] none,
     .mk "parse" "Parse a line into its JSON description" []
       [{ id := "line", valueName := "LINE", check := .text }] [] none]
    none

def harnessCommand : Command :=
  .mk "capsule"
    "CLI for the capsule governance harness: run flows, canonicalize and hash capsules, validate schemas, and encode/parse HREF lines."
    globalOptions []
    [runCommand, canonCommand, hashCommand, validateCommand, hrefCommand] (some "0.1.0")

end CapsuleFlow.Cli
