import CapsuleFlow.Regex.Syntax

/-!
# Regular expressions: reading

A pattern is read into a syntax tree, or refused. The grammar:

* alternatives are separated by `|`; a branch is a sequence of pieces;
* a piece is an atom with at most one quantifier: `*`, `+`, `?`, `{n}`, `{n,}`, `{n,m}`
  or `{,m}`, then `?` for a lazy or `+` for a possessive one;
* an atom is a group, a bracketed class, an escape, `.`, `^`, `$` or any other
  character for itself (`{`, `}` and `]` included);
* groups: `(...)` captures, `(?<name>...)` and `(?P<name>...)` capture under a name,
  `(?:...)` does not, `(?=...)`, `(?!...)`, `(?<=...)`, `(?<!...)` look around,
  `(?>...)` is atomic, `(?flags)` and `(?flags:...)` set the flags `i` (no case),
  `m` (lines), `s` (dot matches line feeds), `U` (lazy by default), `x` (layout
  ignored) and `u`, or clear them after `-`;
* a bracketed class holds characters, ranges `a-z`, escapes, ASCII classes
  `[:alpha:]`, nested classes, and the operators `&&`, `--` and `~~`; a `]` right
  after the opening bracket (and its `^`) is a character;
* escapes: `\d \w \s` and their negations, `\p{...}` and `\P{...}`, `\b \B \A \z \<
  \>`, back-references `\1` and `\k<name>`, `\xHH`, `\uHHHH`, `\UHHHHHHHH` and braced
  `\x{...}`, the control escapes `\n \t \r \f \v \a \e`, `\cX` for a control
  character, `\h` for a hexadecimal digit, and any other ASCII character that is not a
  letter or digit for itself.

Refused: a quantifier with nothing to repeat, an unclosed or unopened group or class,
an unknown group flag or escape, a range whose ends are not single characters or are
out of order, a repetition `{m,n}` with `n < m` or that does not close, a code point
that is not a character, an unknown property, a back-reference to a group that does
not exist, a repeated group name, and a look-behind whose matches do not all span the
same number of characters.

A pattern keeps the ECMAScript reading of `\d`, `\w` and `\s` unless it uses a form
that reading does not know: look-around, back-references, atomic groups, a `{` that
starts no repetition, `\e`, `\h` or an escaped non-ASCII character.
-/

namespace CapsuleFlow.Regex

open CapsuleFlow.Text

/-- The flags a pattern can set with `(?flags)`. -/
structure Flags where
  caseless : Bool := false
  multiLine : Bool := false
  dotAll : Bool := false
  swapGreed : Bool := false
  extended : Bool := false
  deriving DecidableEq, Repr, Inhabited

/-- The state of reading a pattern: the text left, the flags in force, the capturing
groups opened so far and their names, and whether the pattern still keeps to the
ECMAScript forms. -/
structure Reader where
  rest : List Char
  flags : Flags := {}
  groups : Nat := 0
  names : List (String × Nat) := []
  ecma : Bool := true
  deriving Inhabited

/-- Reading a pattern: a state over the text, failing with a reason. -/
abbrev ReadM := StateT Reader (Except String)

/-- What an escape stands for. -/
inductive Escape where
  | char (c : Char)
  | set (s : CharSet)
  | assert (a : Assertion)
  | backref (index : Nat)
  deriving Inhabited

def tooComplex : String := "pattern nested too deeply"

/-- Whether a character is layout, ignored in extended mode. -/
def isLayout (c : Char) : Bool := isWhiteSpace c

mutual
/-- Drops layout and `#` comments. -/
def dropLayout : List Char → List Char
  | [] => []
  | c :: cs => if isLayout c then dropLayout cs else if c == '#' then dropComment cs else c :: cs

def dropComment : List Char → List Char
  | [] => []
  | c :: cs => if c == '\n' then dropLayout cs else dropComment cs
end

def peek? : ReadM (Option Char) := return (← get).rest.head?

def advance : ReadM Unit := modify fun r => { r with rest := r.rest.drop 1 }

/-- Marks the pattern as using a form the ECMAScript reading does not know. -/
def leaveEcma : ReadM Unit := modify fun r => { r with ecma := false }

def skipLayout : ReadM Unit :=
  modify fun r => if r.flags.extended then { r with rest := dropLayout r.rest } else r

/-- Reads decimal digits, at least one. -/
def readNumber : List Char → Option (Nat × List Char)
  | c :: cs =>
    if c.isDigit then
      let (more, rest) := (cs.takeWhile Char.isDigit, cs.dropWhile Char.isDigit)
      some ((c :: more).foldl (fun n d => n * 10 + (d.toNat - 48)) 0, rest)
    else none
  | [] => none

/-- The bounds of a counted repetition, after its opening brace: `n}`, `n,}`, `n,m}`,
`,m}` or `,}`. -/
def countBounds (cs : List Char) : Option ((Nat × Option Nat) × List Char) :=
  let (lo, cs) := match readNumber cs with
    | some (n, rest) => (some n, rest)
    | none => (none, cs)
  match lo, cs with
  | some n, '}' :: rest => some ((n, some n), rest)
  | _, ',' :: rest =>
    match readNumber rest with
    | some (m, '}' :: after) => some ((lo.getD 0, some m), after)
    | some _ => none
    | none => match rest with
      | '}' :: after => some ((lo.getD 0, none), after)
      | _ => none
  | _, _ => none

def hexValue? (c : Char) : Option Nat :=
  if c.isDigit then some (c.toNat - 48)
  else if 'a' ≤ c && c ≤ 'f' then some (c.toNat - 87)
  else if 'A' ≤ c && c ≤ 'F' then some (c.toNat - 55)
  else none

def hexDigits? (cs : List Char) : Option Nat :=
  cs.foldlM (fun n c => (hexValue? c).map (n * 16 + ·)) 0

def isScalar (n : Nat) : Bool := n < 0xD800 || (0xDFFF < n && n ≤ 0x10FFFF)

/-- A hexadecimal escape after its letter: exactly `width` digits, or one to eight
digits in braces. -/
def readHexEscape (width : Nat) : ReadM Char := do
  let r ← get
  let read : Option (Nat × List Char) := match r.rest with
    | '{' :: more =>
      let digits := more.takeWhile (· != '}')
      match more.dropWhile (· != '}'), hexDigits? digits with
      | '}' :: rest, some v =>
        if digits.isEmpty || digits.length > 8 then none else some (v, rest)
      | _, _ => none
    | cs =>
      if (cs.take width).length == width then (hexDigits? (cs.take width)).map (·, cs.drop width)
      else none
  match read with
  | none => throw "invalid hexadecimal escape"
  | some (value, rest) =>
    if !isScalar value then throw "invalid code point"
    set { r with rest := rest }
    return Char.ofNat value

/-- A property escape after `p` or `P`: a letter, or a query in braces; a query that
starts with `^` is negated. -/
def readPropertyEscape (negated : Bool) : ReadM CharSet := do
  let r ← get
  let (query, rest) ← match r.rest with
    | '{' :: more =>
      match more.dropWhile (· != '}') with
      | '}' :: rest => pure (String.ofList (more.takeWhile (· != '}')), rest)
      | _ => throw "unclosed property name"
    | c :: rest => pure (c.toString, rest)
    | [] => throw "incomplete escape sequence"
  set { r with rest := rest }
  let (negatedQuery, query) :=
    if query.startsWith "^" then (true, String.ofList (query.toList.drop 1)) else (false, query)
  match propertyQuery? query with
  | some (p, byValue) =>
    let s := CharSet.property p
    return if (negated != negatedQuery) != byValue then .complement s else s
  | none => throw "unknown property"

/-- A name of a group, up to `>`: letters, digits and underscores, not starting with a
digit. -/
def readGroupName : ReadM String := do
  let r ← get
  let name := r.rest.takeWhile (· != '>')
  match r.rest.dropWhile (· != '>') with
  | '>' :: rest =>
    let wordy (c : Char) : Bool :=
      c == '_' || isAsciiAlnum c || (c.toNat ≥ 128 && isWordCharacter c)
    match name with
    | first :: _ =>
      if first.isDigit || !name.all wordy then throw "invalid group name"
      set { r with rest := rest }
      return String.ofList name
    | [] => throw "invalid group name"
  | _ => throw "invalid group name"

def readEscape (inClass : Bool) : ReadM Escape := do
  let r ← get
  match r.rest with
  | [] => throw "incomplete escape sequence"
  | c :: rest =>
    set { r with rest := rest }
    let outside (e : Escape) : ReadM Escape :=
      if inClass then throw "invalid escape in a class" else pure e
    match c with
    | 'd' => return .set (.shorthand .digit)
    | 'D' => return .set (.complement (.shorthand .digit))
    | 'w' => return .set (.shorthand .word)
    | 'W' => return .set (.complement (.shorthand .word))
    | 's' => return .set (.shorthand .space)
    | 'S' => return .set (.complement (.shorthand .space))
    | 'h' => leaveEcma; return .set (.posix "xdigit")
    | 'H' => leaveEcma; return .set (.complement (.posix "xdigit"))
    | 'p' => return .set (← readPropertyEscape false)
    | 'P' => return .set (← readPropertyEscape true)
    | 'b' => if inClass then return .char (Char.ofNat 8) else return .assert .wordBoundary
    | 'B' => outside (.assert .notWordBoundary)
    | 'A' => outside (.assert .textStart)
    | 'z' => outside (.assert .textEnd)
    | '<' => outside (.assert .wordStart)
    | '>' => outside (.assert .wordEnd)
    | 'n' => return .char '\n'
    | 't' => return .char '\t'
    | 'r' => return .char '\r'
    | 'f' => return .char (Char.ofNat 12)
    | 'v' => return .char (Char.ofNat 11)
    | 'a' => return .char (Char.ofNat 7)
    | 'e' => leaveEcma; return .char (Char.ofNat 27)
    | 'x' => return .char (← readHexEscape 2)
    | 'u' => return .char (← readHexEscape 4)
    | 'U' => return .char (← readHexEscape 8)
    | 'c' =>
      match rest with
      | l :: more =>
        if ('a' ≤ l && l ≤ 'z') || ('A' ≤ l && l ≤ 'Z') then
          set { r with rest := more }
          return .char (Char.ofNat (l.toUpper.toNat - 64))
        else throw "unrecognized escape sequence"
      | [] => throw "unrecognized escape sequence"
    | 'k' =>
      if inClass then throw "invalid escape in a class"
      leaveEcma
      match rest with
      | '<' :: more =>
        modify fun s => { s with rest := more }
        let name ← readGroupName <|> (do
          let r ← get
          let digits := r.rest.takeWhile Char.isDigit
          match r.rest.dropWhile Char.isDigit with
          | '>' :: after =>
            if digits.isEmpty then throw "invalid group name"
            modify fun s => { s with rest := after }
            return String.ofList digits
          | _ => throw "invalid group name")
        match name.toNat? with
        | some i => return .backref i
        | none =>
          match (← get).names.lookup name with
          | some i => return .backref i
          | none => throw "unknown group name"
      | _ => throw "invalid group name"
    | _ =>
      if c.isDigit then
        if inClass then throw "invalid escape in a class"
        leaveEcma
        let digits := c :: rest.takeWhile Char.isDigit
        modify fun s => { s with rest := rest.dropWhile Char.isDigit }
        return .backref (digits.foldl (fun n d => n * 10 + (d.toNat - 48)) 0)
      else if isAsciiAlnum c then throw "unrecognized escape sequence"
      else
        if c.toNat ≥ 128 then leaveEcma
        return .char c

/-- One member of a class that can end a range: a character, or a set. -/
def readClassAtom : ReadM (Char ⊕ CharSet) := do
  let r ← get
  match r.rest with
  | '\\' :: rest =>
    set { r with rest := rest }
    match ← readEscape true with
    | .char c => return .inl c
    | .set s => return .inr s
    | _ => throw "invalid escape in a class"
  | c :: rest =>
    set { r with rest := rest }
    return .inl c
  | [] => throw "unclosed character class"

/-- An ASCII class `[:name:]` or `[:^name:]` at the start of the text, with the text
after it. -/
def posixClass? (cs : List Char) : Option (CharSet × List Char) :=
  match cs with
  | '[' :: ':' :: more =>
    let (negated, more) := match more with
      | '^' :: m => (true, m)
      | m => (false, m)
    let name := String.ofList (more.takeWhile (· != ':'))
    match more.dropWhile (· != ':') with
    | ':' :: ']' :: rest =>
      if posixNames.contains name then
        some ((if negated then .complement (.posix name) else .posix name), rest)
      else none
    | _ => none
  | _ => none

def joinSets : CharSet → CharSet → CharSet
  | .empty, b => b
  | a, b => .union a b

mutual

/-- Reads a class after its opening bracket, up to and with its closing bracket. -/
def readClass : Nat → ReadM CharSet
  | 0 => throw tooComplex
  | fuel + 1 => do
    let negated ← do
      if (← peek?) == some '^' then advance; pure true else pure false
    let first ← do
      if (← peek?) == some ']' then advance; pure (CharSet.single ']') else pure .empty
    let left ← readUnion fuel first
    let body ← readOperations fuel left
    return if negated then .complement body else body

/-- Set operations after a first operand, up to and with the closing bracket. -/
def readOperations : Nat → CharSet → ReadM CharSet
  | 0, _ => throw tooComplex
  | fuel + 1, left => do
    let r ← get
    match r.rest with
    | ']' :: rest => set { r with rest := rest }; return left
    | '&' :: '&' :: rest =>
      set { r with rest := rest }
      readOperations fuel (.inter left (← readUnion fuel .empty))
    | '-' :: '-' :: rest =>
      set { r with rest := rest }
      readOperations fuel (.diff left (← readUnion fuel .empty))
    | '~' :: '~' :: rest =>
      set { r with rest := rest }
      readOperations fuel (.symDiff left (← readUnion fuel .empty))
    | _ => throw "unclosed character class"

/-- Members of a class up to its closing bracket or an operator, joined to `acc`. -/
def readUnion : Nat → CharSet → ReadM CharSet
  | 0, _ => throw tooComplex
  | fuel + 1, acc => do
    let r ← get
    match r.rest with
    | [] => throw "unclosed character class"
    | ']' :: _ | '&' :: '&' :: _ | '-' :: '-' :: _ | '~' :: '~' :: _ => return acc
    | _ => readUnion fuel (joinSets acc (← readClassItem fuel))

/-- One member of a class: an ASCII class, a nested class, a range, a character or an
escape. -/
def readClassItem : Nat → ReadM CharSet
  | 0 => throw tooComplex
  | fuel + 1 => do
    let r ← get
    match posixClass? r.rest with
    | some (s, rest) => set { r with rest := rest }; return s
    | none =>
      match r.rest with
      | '[' :: rest => set { r with rest := rest }; readClass fuel
      | _ =>
        let start ← readClassAtom
        match (← get).rest with
        | '-' :: c :: _ =>
          if c == ']' || c == '-' then return (match start with
            | .inl x => .single x
            | .inr s => s)
          else
            match start with
            | .inl lo =>
              advance
              match ← readClassAtom with
              | .inl hi => if hi < lo then throw "invalid class range" else return .range lo hi
              | .inr _ => throw "invalid class range"
            | .inr _ => throw "invalid class range"
        | _ => return (match start with
          | .inl x => .single x
          | .inr s => s)

end

/-- The flags of a `(?flags)` or `(?flags:` group after its `?`: the flags that follow,
whether a body follows (`:`), and the text after the `)` or `:`. A group with no flag,
or with a bare `-`, is refused. -/
def readFlagSpec (cs : List Char) (flags : Flags) : Except String (Flags × Bool × List Char) :=
  go cs flags false 0
where
  /-- `neg` after a `-`; `seen` characters read so far. -/
  go : List Char → Flags → Bool → Nat → Except String (Flags × Bool × List Char)
    | [], _, _, _ => .error "unclosed group"
    | c :: rest, f, neg, seen =>
      let on := !neg
      match c with
      | 'i' => go rest { f with caseless := on } neg (seen + 1)
      | 'm' => go rest { f with multiLine := on } neg (seen + 1)
      | 's' => go rest { f with dotAll := on } neg (seen + 1)
      | 'U' => go rest { f with swapGreed := on } neg (seen + 1)
      | 'x' => go rest { f with extended := on } neg (seen + 1)
      | 'u' => if neg then .error "unknown group flag" else go rest f neg (seen + 1)
      | '-' => if neg then .error "unknown group flag" else go rest f true (seen + 1)
      | ')' => if seen == 0 || (neg && seen == 1) then .error "unknown group flag"
        else .ok (f, false, rest)
      | ':' => if neg && seen == 1 then .error "unknown group flag" else .ok (f, true, rest)
      | _ => .error "unknown group flag"

mutual

/-- Alternatives separated by `|`, up to a closing parenthesis or the end. -/
def readAlternation : Nat → ReadM Node
  | 0 => throw tooComplex
  | fuel + 1 => do
    let first ← readBranch fuel .empty
    if (← peek?) == some '|' then
      advance
      return .alt first (← readAlternation fuel)
    else return first

/-- Pieces up to `|`, `)` or the end, after those read. -/
def readBranch : Nat → Node → ReadM Node
  | 0, _ => throw tooComplex
  | fuel + 1, acc => do
    skipLayout
    match ← peek? with
    | none | some '|' | some ')' => return acc
    | some _ =>
      let piece ← readPiece fuel
      readBranch fuel (acc.append piece)

def readPiece : Nat → ReadM Node
  | 0 => throw tooComplex
  | fuel + 1 => do
    let atom ← readAtom fuel
    skipLayout
    let r ← get
    let bounds : Option ((Nat × Option Nat) × List Char) := match r.rest with
      | '*' :: rest => some ((0, none), rest)
      | '+' :: rest => some ((1, none), rest)
      | '?' :: rest => some ((0, some 1), rest)
      | '{' :: rest => countBounds rest
      | _ => none
    match r.rest, bounds, atom with
    | '{' :: _, none, _ => throw "invalid repetition"
    | _, none, a => return a.getD .empty
    | _, some _, none => throw "repetition operator missing expression"
    | _, some ((lo, hi), rest), some a =>
      if !a.repeatable then throw "target of repetition is not repeatable"
      if hi.any (· < lo) then throw "invalid repetition range"
      set { r with rest := rest }
      let lazy_ ← do
        if (← peek?) == some '?' then advance; pure true else pure false
      let possessive ← do
        if !lazy_ && (← peek?) == some '+' then advance; pure true else pure false
      let node := Node.repeat a lo hi (lazy_ == r.flags.swapGreed)
      return if possessive then .atomic node else node

/-- One atom; nothing for a group that only sets flags. -/
def readAtom : Nat → ReadM (Option Node)
  | 0 => throw tooComplex
  | fuel + 1 => do
    let r ← get
    match r.rest with
    | [] => return some .empty
    | c :: rest =>
      set { r with rest := rest }
      let f := r.flags
      match c with
      | '(' => readGroup fuel
      | '[' => return some (.chars (← readClass fuel) f.caseless)
      | '\\' =>
        match ← readEscape false with
        | .char d => return some (.chars (.single d) f.caseless)
        | .set s => return some (.chars s f.caseless)
        | .assert a => return some (.assert a)
        | .backref i => return some (.backref i f.caseless)
      | '.' => return some (.chars (.complement (if f.dotAll then .empty else .single '\n')) false)
      | '^' => return some (.assert (if f.multiLine then .lineStart else .textStart))
      | '$' => return some (.assert (if f.multiLine then .lineEnd else .textEnd))
      | '*' | '+' | '?' => throw "repetition operator missing expression"
      | '{' => leaveEcma; return some (.chars (.single '{') f.caseless)
      | d => return some (.chars (.single d) f.caseless)

def readGroup : Nat → ReadM (Option Node)
  | 0 => throw tooComplex
  | fuel + 1 => do
    let r ← get
    let saved := r.flags
    let body (rest : List Char) (flags : Flags) : ReadM Node := do
      modify fun r => { r with rest := rest, flags := flags }
      let n ← readAlternation fuel
      match (← get).rest with
      | ')' :: after => modify fun r => { r with rest := after, flags := saved }; return n
      | _ => throw "unclosed group"
    let capture (rest : List Char) (name : Option String) : ReadM (Option Node) := do
      let index := (← get).groups + 1
      if let some n := name then
        if ((← get).names.lookup n).isSome then throw "duplicate group name"
        modify fun r => { r with names := r.names ++ [(n, index)] }
      modify fun r => { r with groups := index }
      return some (.group (some index) (← body rest saved))
    let look (behind negated : Bool) (rest : List Char) : ReadM (Option Node) := do
      leaveEcma
      return some (.look behind negated (← body rest saved))
    match r.rest with
    | '?' :: '=' :: rest => look false false rest
    | '?' :: '!' :: rest => look false true rest
    | '?' :: '<' :: '=' :: rest => look true false rest
    | '?' :: '<' :: '!' :: rest => look true true rest
    | '?' :: '>' :: rest => leaveEcma; return some (.atomic (← body rest saved))
    | '?' :: '<' :: rest =>
      set { r with rest := rest }
      let name ← readGroupName
      capture (← get).rest (some name)
    | '?' :: 'P' :: '<' :: rest =>
      set { r with rest := rest }
      let name ← readGroupName
      capture (← get).rest (some name)
    | '?' :: rest =>
      match readFlagSpec rest saved with
      | .error e => throw e
      | .ok (flags, hasBody, after) =>
        if hasBody then return some (.group none (← body after flags))
        else
          set { r with rest := after, flags := flags }
          return none
    | rest => capture rest none

end

/-- A pattern read: its tree, the number of its capturing groups, and the reading of
its class escapes. -/
structure Parsed where
  node : Node
  groups : Nat
  dialect : Dialect
  deriving Inhabited

def parse (pattern : String) : Except String Parsed := do
  let cs := pattern.toList
  let (node, r) ← (readAlternation (4 * cs.length + 8)).run { rest := cs }
  if !r.rest.isEmpty then throw "unopened group"
  if node.maxBackref > r.groups then throw "invalid back reference"
  if !node.fixedLookBehinds then throw "look-behind of variable width"
  return ⟨node, r.groups, if r.ecma then .ecma else .unicode⟩

end CapsuleFlow.Regex
