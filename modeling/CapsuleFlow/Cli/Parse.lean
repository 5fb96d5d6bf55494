import CapsuleFlow.Cli.Help
import CapsuleFlow.Cli.Integer
import CapsuleFlow.Cli.Refusal
import CapsuleFlow.Cli.Similar
import CapsuleFlow.Digest

/-!
# Reading a command line

A command line is read one command at a time, token by token, from the left.

* A token naming a subcommand starts it, unless an option still waits for its value;
  the rest of the line belongs to the subcommand. `help` followed by names prints the
  help of the command they lead to.
* `--` ends the options: every later token is a positional value.
* `--name` and `--name=value` are long options; `-abc` is a cluster of short ones, the
  last of which may take the rest of the token, or the next token, as its value.
* Any other token is the value of the option waiting for one, or else the next
  positional value.

A value is checked when the next argument is taken, or when the command's tokens end;
a value that does not check refuses the line. Help and version stop reading at once.
When a command's tokens end, it must have had its subcommand, if it has subcommands
(with nothing given at all it shows its help instead), and every positional argument.

A global option given at several commands takes its value from the deepest one.
-/

namespace CapsuleFlow.Cli

/-- What an argument was given: a number of times, or a value. -/
inductive Given where
  | times (n : Nat)
  | value (v : String)
  deriving DecidableEq, Repr, Inhabited

/-- Values not yet taken by their argument. -/
structure Pending where
  arg : Arg
  values : List String
  /-- The option still waits for its value. -/
  waiting : Bool
  deriving DecidableEq, Repr, Inhabited

/-- How reading the command line stopped short of running it. -/
inductive Exit where
  /-- Help was asked for. -/
  | help (text : String)
  /-- The version was asked for. -/
  | version (text : String)
  /-- A command that needs a subcommand was given nothing: its help, as an error. -/
  | helpInstead (text : String)
  | refused (c : Complaint)
  deriving DecidableEq, Repr, Inhabited

/-- One command being read. -/
structure Reading where
  scope : Scope
  /-- What each argument was given, in the order they were taken. -/
  given : List (String × Given) := []
  pending : Option Pending := none
  /-- How many positional values were given. -/
  position : Nat := 0
  /-- Whether `--` was seen. -/
  trailing : Bool := false
  deriving Repr, Inhabited

/-- Whether a value is one an argument takes; the refusal when not. -/
def Arg.check (a : Arg) (v : String) : Option Refusal :=
  let choices := a.choices.map (·.name)
  if !choices.isEmpty then
    if choices.contains v then none else some (.invalidValue a.display v choices)
  else
    let vc := match a with
      | .option o => match o.kind with
        | .value _ c .. => c
        | _ => .text
      | .positional p => p.check
    match vc with
    | .path => if v.isEmpty then some (.invalidValue a.display "" []) else none
    | .text => none
    | .u32 => match readU32 v with
      | .ok _ => none
      | .error r => some (.badValue a.display v r)
    | .usize => match readU64 v with
      | .ok _ => none
      | .error f => some (.badValue a.display v f.text)
    | .algorithm => match DigestAlgorithm.parse v with
      | .ok _ => none
      | .error e => some (.badValue a.display v e.message)

def similarChoice : Refusal → Option (String × List String)
  | .invalidValue _ v choices => (mostSimilar v choices).map fun c => ("value", [c])
  | _ => none

namespace Reading

def explicit (l : Reading) : List String := l.given.map (·.1)

def has (l : Reading) (id : String) : Bool := l.given.any (·.1 == id)

def drop (l : Reading) (id : String) : Reading :=
  { l with given := l.given.filter (·.1 != id) }

/-- Records an argument last. -/
def record (l : Reading) (id : String) (g : Given) : Reading :=
  { l with given := (l.given.filter (·.1 != id)) ++ [(id, g)] }

def waiting (l : Reading) : Bool :=
  match l.pending with
  | some p => p.waiting
  | none => false

/-- Takes an argument with its values. A counter counts up; a flag or a value given
twice is refused; a missing or unchecked value is refused, the argument staying
recorded when its value was there. -/
def take (l : Reading) (a : Arg) (values : List String) : Reading × Option Complaint :=
  let twice : Reading × Option Complaint :=
    (l.drop a.id, some { refusal := .repeated a.display, usage := some l.scope.usage })
  match a with
  | .option { kind := .count, .. } =>
    let n := match l.given.lookup a.id with
      | some (.times k) => k
      | _ => 0
    (l.record a.id (.times (min 255 (n + 1))), none)
  | .option { kind := .flag, .. } =>
    if l.has a.id then twice else (l.record a.id (.times 1), none)
  | _ =>
    match values with
    | [] =>
      let r := Refusal.invalidValue a.display "" (a.choices.map (·.name))
      (l, some { refusal := r })
    | v :: _ =>
      if l.has a.id then twice
      else
        let l' := l.record a.id (.value v)
        match a.check v with
        | none => (l', none)
        | some r => (l', some { refusal := r, similar := similarChoice r })

def settle (l : Reading) : Reading × Option Complaint :=
  match l.pending with
  | none => (l, none)
  | some p => take { l with pending := none } p.arg p.values

def settled (l : Reading) : Except Exit Reading :=
  match l.settle with
  | (l', none) => .ok l'
  | (_, some c) => .error (.refused c)

/-- Takes the pending values, ignoring a refusal, as a worse error follows. -/
def settledAnyway (l : Reading) : Reading := l.settle.1

/-- Takes an option given by name: help and version stop reading, others are taken
after the pending values. -/
def react (l : Reading) (o : Opt) (values : List String) (long : Bool) : Except Exit Reading := do
  let l ← l.settled
  if o.id == "help" then throw (.help (l.scope.helpText long))
  if o.id == "version" then
    throw (.version (l.scope.binName ++ " " ++ (l.scope.command.version.getD "") ++ "\n"))
  match l.take (.option o) values with
  | (l', none) => return l'
  | (_, some c) => throw (.refused c)

def await (l : Reading) (o : Opt) : Except Exit Reading := do
  let l ← l.settled
  return { l with pending := some ⟨.option o, [], true⟩ }

def takesValue (o : Opt) : Bool :=
  match o.kind with
  | .value .. => true
  | _ => false

def asValueTip (arg : String) : String :=
  "to pass " ++ quote arg ++ " as a value, use " ++ quote ("-- " ++ arg)

/-- The option of a subcommand named later on the line that a mistyped long name is
like: the subcommand named first wins. -/
def subcommandSuggestion (l : Reading) (name : String) (rest : List String) :
    Option (String × String) :=
  let found := l.scope.command.subcommands.filterMap fun c =>
    match l.scope.child? c.name with
    | none => none
    | some s =>
      match mostSimilar name s.longNames, rest.idxOf? c.name with
      | some cand, some pos => some (pos, (cand, c.name))
      | _, _ => none
  let best := found.foldl (fun (acc : Option (Nat × String × String)) x =>
    match acc with
    | some a => if x.1 < a.1 then some x else acc
    | none => some x) none
  best.map (·.2)

/-- An unknown long option: refused, with a similar option of this command or of a
subcommand named later, or else a tip. -/
def unknownLong (l : Reading) (name : String) (rest : List String) : Exit :=
  let l := l.settledAnyway
  let arg := "--" ++ name
  let here := mostSimilar name l.scope.longNames
  let l := match here.bind l.scope.findLong? with
    | some o => l.record o.id (.times 1)
    | none => l
  let sub := if here.isSome then none else subcommandSuggestion l name rest
  let tips :=
    (if here.isNone && sub.isNone && !l.trailing && !l.scope.positionals.isEmpty then
      [asValueTip arg] else []) ++
    (sub.map fun (cand, c) => quote (c ++ " --" ++ cand) ++ " exists").toList
  .refused { refusal := .unknownArgument arg, similar := here.map fun h => ("argument", ["--" ++ h])
             tips, usage := some (l.scope.usageFor l.explicit) }

/-- Reads a long option, `name` or `name=value`. -/
def readLong (l : Reading) (body : String) (rest : List String) : Except Exit Reading :=
  let (name, attached) := match body.splitOn "=" with
    | [n] => (n, none)
    | n :: vs => (n, some ("=".intercalate vs))
    | [] => (body, none)
  match l.scope.findLong? name with
  | none => .error (l.unknownLong name rest)
  | some o =>
    if takesValue o then
      match attached with
      | some v => l.react o [v] true
      | none => l.await o
    else
      match attached with
      | some v =>
        let used := (l.explicit.filter fun id =>
          match l.scope.findArg? id with
          | some (.positional _) => false
          | _ => true) ++ [o.id]
        .error (.refused { refusal := .unexpectedValue (Arg.option o).display v
                           usage := some (l.scope.usageGiven used) })
      | none => l.react o [] true

def readShort (l : Reading) : List Char → Except Exit Reading
  | [] => .ok l
  | c :: cs =>
    match l.scope.findShort? c with
    | none =>
      let arg := "-" ++ c.toString
      let l := l.settledAnyway
      let tips := if !l.trailing && !l.scope.positionals.isEmpty then [asValueTip arg] else []
      .error (.refused { refusal := .unknownArgument arg, tips, usage := some l.scope.usage })
    | some o =>
      if takesValue o then
        let rest := String.ofList cs
        if rest.isEmpty then l.await o
        else l.react o [if rest.startsWith "=" then (rest.drop 1).toString else rest] false
      else do
        let l ← l.react o [] false
        readShort l cs

/-- A token that is not an option and has no positional place left. -/
def stray (l : Reading) (t : String) : Exit :=
  let l := l.settledAnyway
  let usage := some l.scope.usage
  if l.trailing && l.scope.subcommandNames.contains t then
    .refused { refusal := .unknownArgument t, usage
               tips := ["subcommand " ++ quote t ++ " exists; to use it, remove the " ++
                 quote "--" ++ " before it"] }
  else if l.scope.hasSubcommands then
    match similarTo t l.scope.subcommandNames with
    | [] =>
      if l.scope.positionals.isEmpty then .refused { refusal := .unknownSubcommand t, usage }
      else .refused { refusal := .unknownArgument t, usage }
    | cands => .refused { refusal := .unknownSubcommand t, similar := some ("subcommand", cands), usage }
  else .refused { refusal := .unknownArgument t, usage }

def positional (l : Reading) (t : String) : Except Exit Reading :=
  match l.scope.positionals[l.position]? with
  | none => .error (l.stray t)
  | some p => do
    let l ← l.settled
    return { l with pending := some ⟨.positional p, [t], false⟩, position := l.position + 1 }

def finish (l : Reading) (hadSubcommand : Bool) : Except Exit Reading := do
  let l ← l.settled
  if l.scope.hasSubcommands && !hadSubcommand then
    if l.given.isEmpty then throw (.helpInstead (l.scope.helpText false))
    throw (.refused { refusal := .missingSubcommand l.scope.binName l.scope.subcommandNames
                      usage := some l.scope.usage })
  let missing := l.scope.positionals.drop l.position
  if !missing.isEmpty then
    throw (.refused { refusal := .missingArguments (missing.map fun p => (Arg.positional p).display)
                      usage := some (l.scope.usageGiven (l.explicit ++ missing.map (·.id))) })
  return l

end Reading

/-- The help of the command that names lead to, for the `help` subcommand. The `help`
subcommand itself has no subcommands and none of the global options. -/
def helpFor (s : Scope) : List String → Exit
  | [] => .help (s.helpText true)
  | n :: ns =>
    match s.child? n, ns with
    | some c, _ => helpFor c ns
    | none, [] =>
      if n == "help" && s.hasSubcommands then .help s.helpCommandText
      else .refused { refusal := .unknownSubcommand n, usage := some s.usage }
    | none, m :: _ =>
      if n == "help" && s.hasSubcommands then
        .refused { refusal := .unknownSubcommand m, usage := some s.helpCommandUsage }
      else .refused { refusal := .unknownSubcommand n, usage := some s.usage }

/-- How a command's tokens ended. -/
inductive Stop where
  | finished (l : Reading)
  | enter (l : Reading) (name : String) (rest : List String)
  | stopped (e : Exit)
  deriving Inhabited

def readTokens (l : Reading) : List String → Stop
  | [] => .finished l
  | t :: rest =>
    let next (r : Except Exit Reading) : Stop :=
      match r with
      | .ok l' => readTokens l' rest
      | .error e => .stopped e
    if l.trailing then next (l.positional t)
    else if !l.waiting && l.scope.subcommandNames.contains t then
      if t == "help" then .stopped (helpFor l.scope rest) else .enter l t rest
    else if t == "--" then readTokens { l with trailing := true } rest
    else if t.startsWith "--" then next (l.readLong (t.drop 2).toString rest)
    else if t.startsWith "-" && t.length > 1 then next (l.readShort (t.drop 1).toString.toList)
    else if l.waiting then
      match l.pending with
      | some p => readTokens { l with pending := some { p with values := p.values ++ [t], waiting := false } } rest
      | none => next (l.positional t)
    else next (l.positional t)

/-- Reads the tokens of a command and of the subcommands they start: the commands read,
from this one down. The fuel bounds the depth. -/
def readCommand : Nat → Scope → List String → Except Exit (List Reading)
  | 0, _, _ => .error (.refused { refusal := .unknownArgument "" })
  | fuel + 1, s, tokens =>
    match readTokens { scope := s } tokens with
    | .stopped e => .error e
    | .finished l => do return [← l.finish false]
    | .enter l name rest =>
      match s.child? name with
      | none => .error (.refused { refusal := .unknownSubcommand name })
      | some c => do
        let below ← readCommand fuel c rest
        let l ← l.finish true
        return l :: below

def readLine (c : Command) (tokens : List String) : Except Exit (List Reading) :=
  readCommand (tokens.length + 1) (Scope.top c) tokens

/-- What an argument was last given across the commands read: the deepest command that
gave it wins. -/
def givenAt (levels : List Reading) (id : String) : Option Given :=
  levels.foldl (fun acc l => match l.given.lookup id with
    | some g => some g
    | none => acc) none

end CapsuleFlow.Cli
