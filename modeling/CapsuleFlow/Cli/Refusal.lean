import CapsuleFlow.Text.Quote

/-!
# Refused command lines

When a command line does not read, the program says why on the error stream and stops
with the usage exit code. The message is `error: ` and the reason; then suggestions of
similar words, tips, the usage line when it helps, and a pointer to `--help`.
-/

namespace CapsuleFlow.Cli

/-- Why a command line was refused. -/
inductive Refusal where
  /-- A value is not one of the fixed values the argument takes; an empty value is a
  missing one. -/
  | invalidValue (arg value : String) (choices : List String)
  /-- A value does not convert; `reason` says why. -/
  | badValue (arg value reason : String)
  | unknownArgument (arg : String)
  | unknownSubcommand (name : String)
  | missingArguments (args : List String)
  | missingSubcommand (command : String) (names : List String)
  | repeated (arg : String)
  | unexpectedValue (arg value : String)
  deriving DecidableEq, Repr, Inhabited

/-- A listed value: quoted when it holds white space. -/
def listedValue (v : String) : String :=
  if v.any Char.isWhitespace then Text.quoted v else v

/-- A bracketed list of values on a line of its own, or nothing when there are none. -/
def valueList (title : String) (vs : List String) : String :=
  if vs.isEmpty then ""
  else "\n  [" ++ title ++ ": " ++ ", ".intercalate (vs.map listedValue) ++ "]"

def quote (s : String) : String := "\x27" ++ s ++ "\x27"

/-- The reason, as the first line of the message says it. -/
def Refusal.text : Refusal → String
  | .invalidValue arg value choices =>
    (if value.isEmpty then "a value is required for " ++ quote arg ++ " but none was supplied"
     else "invalid value " ++ quote value ++ " for " ++ quote arg) ++
    valueList "possible values" choices
  | .badValue arg value reason =>
    "invalid value " ++ quote value ++ " for " ++ quote arg ++ ": " ++ reason
  | .unknownArgument arg => "unexpected argument " ++ quote arg ++ " found"
  | .unknownSubcommand name => "unrecognized subcommand " ++ quote name
  | .missingArguments args =>
    "the following required arguments were not provided:" ++
      String.join (args.map ("\n  " ++ ·))
  | .missingSubcommand command names =>
    quote command ++ " requires a subcommand but one was not provided" ++
      valueList "subcommands" names
  | .repeated arg => "the argument " ++ quote arg ++ " cannot be used multiple times"
  | .unexpectedValue arg value =>
    "unexpected value " ++ quote value ++ " for " ++ quote arg ++
      " found; no more were expected"

/-- A refusal with what helps to mend it. -/
structure Complaint where
  refusal : Refusal
  /-- What kind of word was mistyped, and the similar ones. -/
  similar : Option (String × List String) := none
  tips : List String := []
  usage : Option String := none
  deriving DecidableEq, Repr, Inhabited

def Complaint.text (c : Complaint) : String :=
  let similar := match c.similar with
    | some (kind, [one]) => "\n\n  tip: a similar " ++ kind ++ " exists: " ++ quote one
    | some (kind, many) =>
      "\n\n  tip: some similar " ++ kind ++ "s exist: " ++ ", ".intercalate (many.map quote)
    | none => ""
  let tips := if c.tips.isEmpty then ""
    else (if c.similar.isSome then "" else "\n") ++ String.join (c.tips.map ("\n  tip: " ++ ·))
  let usage := match c.usage with
    | some u => "\n\nUsage: " ++ u
    | none => ""
  "error: " ++ c.refusal.text ++ similar ++ tips ++ usage ++
    "\n\nFor more information, try " ++ quote "--help" ++ ".\n"

end CapsuleFlow.Cli
