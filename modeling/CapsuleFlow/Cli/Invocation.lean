import CapsuleFlow.Cli.Parse
import CapsuleFlow.Adapter

/-!
# What a command line asks for

A command line that reads asks for one action, with settings shared by every action:
how much to log and in which form, a configuration file, and overrides of the
canonical form. The arguments were checked as they were read, so taking them apart
again cannot fail.
-/

namespace CapsuleFlow.Cli

/-- The settings every action shares. -/
structure Globals where
  /-- How many times `-v` was given. -/
  verbose : Nat := 0
  config : Option String := none
  decimals : Option Nat := none
  noNfc : Bool := false
  logJson : Bool := false
  deriving DecidableEq, Repr, Inhabited

/-- The actions. -/
inductive Action where
  | run (flow : String) (out : Option String) (adapter : Option Adapter)
  | canon (file : String)
  | hash (file : String) (algorithm : Option DigestAlgorithm) (length : Option Nat) (role : Role)
  | validate (schema capsule : String)
  | hrefEncode (json : String)
  | hrefParse (line : String)
  deriving Repr, Inhabited

/-- A command line read. -/
structure Invocation where
  globals : Globals
  action : Action
  deriving Repr, Inhabited

def adapterNamed : String → Option Adapter
  | "mock" => some .mock
  | "noop" => some .noop
  | _ => none

def roleNamed : String → Role
  | "policy" => .policy
  | _ => .capsule

def actionOf (path : List String) (text : String → Option String) : Option Action :=
  match path with
  | ["run"] => (text "flow").map fun f =>
    .run f (text "out") ((text "adapter").bind adapterNamed)
  | ["canon"] => (text "file").map .canon
  | ["hash"] => (text "file").map fun f =>
    .hash f ((text "algorithm").bind fun a => (DigestAlgorithm.parse a).toOption)
      ((text "length").bind fun n => (readU64 n).toOption)
      (roleNamed ((text "role").getD "capsule"))
  | ["validate"] => do return .validate (← text "schema") (← text "capsule")
  | ["href", "encode"] => (text "json").map .hrefEncode
  | ["href", "parse"] => (text "line").map .hrefParse
  | _ => none

def Invocation.ofLevels (levels : List Reading) : Option Invocation := do
  let text (id : String) : Option String :=
    match givenAt levels id with
    | some (.value v) => some v
    | _ => none
  let times (id : String) : Nat :=
    match givenAt levels id with
    | some (.times n) => n
    | _ => 0
  let globals : Globals :=
    { verbose := times "verbose", config := text "config"
      decimals := (text "decimals").bind fun d => (readU32 d).toOption
      noNfc := times "no_nfc" > 0, logJson := times "log_json" > 0 }
  let path := (levels.map (·.scope.command.name)).drop 1
  let action ← actionOf path text
  return { globals, action }

def readInvocation (tokens : List String) : Except Exit Invocation := do
  let levels ← readLine harnessCommand tokens
  match Invocation.ofLevels levels with
  | some inv => return inv
  | none => throw (.refused { refusal := .unknownArgument "" })

end CapsuleFlow.Cli
