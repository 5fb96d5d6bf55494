import CapsuleFlow.Yaml.Token

/-!
# Scanning YAML text into tokens

The scanner turns the text into a queue of tokens on demand. Block structure is found
from indentation: each deeper column opens a block collection and each shallower line
closes the ones above it. A mapping key written without `?` (a *simple key*) is only
known to be a key when the `:` after it is seen, so the place where such a key may
start is remembered, and the `KEY` token (and, when needed, the opening of a block
mapping) is inserted into the queue at that place afterwards. The queue is handed out
only once no remembered key could still insert a token in front of its head; this is
also what decides which problems are met before which tokens are taken.

Every loop is bounded by the number of characters left, and every pass of a loop that
goes on reads at least one character.
-/

namespace CapsuleFlow.Yaml

/-- A place where a mapping key written without `?` may begin. -/
structure SimpleKey where
  possible : Bool := false
  required : Bool := false
  tokenNumber : Nat := 0
  mark : Mark := {}
  deriving Repr, Inhabited

/-- The scanner: the text, the reading position, the tokens not yet taken, and the
indentation and simple-key bookkeeping. -/
structure Scanner where
  input : Array Char
  pos : Nat := 0
  mark : Mark := {}
  tokens : List Token := []
  tokensTaken : Nat := 0
  tokenReady : Bool := false
  started : Bool := false
  indent : Int := -1
  indents : Array Int := #[]
  simpleKeyAllowed : Bool := false
  simpleKeys : Array SimpleKey := #[]
  flowLevel : Nat := 0
  deriving Inhabited

/-- Scanning steps: they read and update the scanner and may stop with a problem. -/
abbrev Scan := StateT Scanner (Except Problem)

namespace Scanner

/-- The character `k` places ahead, or the character zero past the end. -/
def charAt (k : Nat) : Scan Char := do
  let s ← get
  return s.input.getD (s.pos + k) '\x00'

/-- One more than the number of characters left: the bound of every loop. -/
def remaining : Scan Nat := do
  let s ← get
  return s.input.size - s.pos + 1

def here : Scan Mark := do
  return (← get).mark

def skip : Scan Unit := modify fun s =>
  let c := s.input.getD s.pos '\x00'
  { s with pos := s.pos + 1,
           mark := { s.mark with index := s.mark.index + c.utf8Size,
                                 column := s.mark.column + 1 } }

/-- Moves past a line break (`CR LF` counts as one). -/
def skipLine : Scan Unit := modify fun s =>
  let c := s.input.getD s.pos '\x00'
  let d := s.input.getD (s.pos + 1) '\x00'
  if c == '\r' && d == '\n' then
    { s with pos := s.pos + 2,
             mark := { index := s.mark.index + 2, line := s.mark.line + 1, column := 0 } }
  else if isBreak c then
    { s with pos := s.pos + 1,
             mark := { index := s.mark.index + c.utf8Size, line := s.mark.line + 1,
                       column := 0 } }
  else s

/-- Moves past a line break and gives it as it counts in a scalar: the line and
paragraph separators stay, every other break becomes a line feed. -/
def readLine : Scan String := do
  let c ← charAt 0
  skipLine
  return if c == '\u2028' || c == '\u2029' then c.toString else "\n"

/-- Stops with a problem found here while reading what began at `contextMark`. -/
def fail (context : String) (contextMark : Mark) (problem : String) : Scan α := do
  throw { problem, mark := (← here), context := some (context, contextMark) }

/-- Stops with a problem found here, with no context. -/
def failHere (problem : String) : Scan α := do
  throw { problem, mark := (← here) }

def enqueue (t : Token) : Scan Unit :=
  modify fun s => { s with tokens := s.tokens ++ [t] }

/-- Inserts a token `i` places behind the head of the queue. -/
def insertAt (tokens : List Token) (i : Nat) (t : Token) : List Token :=
  tokens.take i ++ t :: tokens.drop i

/-- The problem of a key that had to be a simple key but met no `:`. -/
def keyProblem (k : SimpleKey) (at_ : Mark) : Problem :=
  { problem := "could not find expected \x27:\x27", mark := at_,
    context := some ("while scanning a simple key", k.mark) }

/-- Forgets remembered keys that can no longer be keys: those on an earlier line or
more than 1024 bytes back. A forgotten key that had to be a key is a problem. -/
def staleSimpleKeys : Scan Unit := do
  let s ← get
  let mut keys := #[]
  for k in s.simpleKeys do
    if k.possible && (k.mark.line < s.mark.line || k.mark.index + 1024 < s.mark.index) then
      if k.required then throw (keyProblem k s.mark)
      keys := keys.push { k with possible := false }
    else
      keys := keys.push k
  set { s with simpleKeys := keys }

/-- Forgets the remembered key of the current flow level; a key that had to be a key
is a problem. -/
def removeSimpleKey : Scan Unit := do
  let s ← get
  match s.simpleKeys.back? with
  | some k =>
    if k.possible && k.required then throw (keyProblem k s.mark)
    set { s with simpleKeys := s.simpleKeys.pop.push { k with possible := false } }
  | none => pure ()

/-- Remembers that a simple key may start here. In block context a key at the current
indentation is required: if no `:` follows, the text is wrong. -/
def saveSimpleKey : Scan Unit := do
  let s ← get
  let required := s.flowLevel == 0 && s.indent == (s.mark.column : Int)
  if s.simpleKeyAllowed then
    let key : SimpleKey :=
      { possible := true, required, tokenNumber := s.tokensTaken + s.tokens.length,
        mark := s.mark }
    removeSimpleKey
    modify fun s => { s with simpleKeys := s.simpleKeys.pop.push key }

def increaseFlowLevel : Scan Unit :=
  modify fun s => { s with simpleKeys := s.simpleKeys.push {}, flowLevel := s.flowLevel + 1 }

def decreaseFlowLevel : Scan Unit :=
  modify fun s =>
    if s.flowLevel > 0 then { s with flowLevel := s.flowLevel - 1, simpleKeys := s.simpleKeys.pop }
    else s

/-- In block context, opens a block collection when `column` is deeper than the current
indentation; the opening token goes at the end of the queue or at token `number`. -/
def rollIndent (column : Int) (number : Option Nat) (kind : TokenKind) (mark : Mark) :
    Scan Unit := do
  let s ← get
  if s.flowLevel == 0 && s.indent < column then
    let t : Token := ⟨kind, mark, mark⟩
    let tokens := match number with
      | none => s.tokens ++ [t]
      | some n => insertAt s.tokens (n - s.tokensTaken) t
    set { s with indents := s.indents.push s.indent, indent := column, tokens }

/-- In block context, closes every block collection deeper than `column`. -/
def unrollIndent (column : Int) : Scan Unit := do
  let s ← get
  if s.flowLevel == 0 then
    let mut s := s
    for _ in [0:s.indents.size + 1] do
      if s.indent > column then
        s := { s with tokens := s.tokens ++ [⟨.blockEnd, s.mark, s.mark⟩],
                      indent := s.indents.back?.getD (-1), indents := s.indents.pop }
      else break
    set s

/-- Whether a document marker `---` or `...` starts here. -/
def atDocumentIndicator : Scan Bool := do
  let s ← get
  if s.mark.column != 0 then return false
  let c0 ← charAt 0
  let c1 ← charAt 1
  let c2 ← charAt 2
  let c3 ← charAt 3
  return ((c0 == '-' && c1 == '-' && c2 == '-') || (c0 == '.' && c1 == '.' && c2 == '.')) &&
    isBlankOrEnd c3

/-- Moves past blanks, comments and line breaks up to the next token. Tabs are skipped
only in flow context or where no simple key may start. -/
def scanToNextToken : Scan Unit := do
  let n ← remaining
  for _ in [0:n] do
    if (← here).column == 0 && (← charAt 0) == '\uFEFF' then skip
    let m ← remaining
    for _ in [0:m] do
      let c ← charAt 0
      let s ← get
      if c == ' ' || ((s.flowLevel > 0 || !s.simpleKeyAllowed) && c == '\t') then skip
      else break
    if (← charAt 0) == '#' then
      let m ← remaining
      for _ in [0:m] do
        if isBreakOrEnd (← charAt 0) then break
        skip
    if isBreak (← charAt 0) then
      skipLine
      let s ← get
      if s.flowLevel == 0 then set { s with simpleKeyAllowed := true }
    else break

def skipToLineEnd : Scan Unit := do
  let m ← remaining
  for _ in [0:m] do
    if isBlank (← charAt 0) then skip else break
  if (← charAt 0) == '#' then
    let m ← remaining
    for _ in [0:m] do
      if isBreakOrEnd (← charAt 0) then break
      skip

def readWord : Scan String := do
  let mut w := ""
  let m ← remaining
  for _ in [0:m] do
    let c ← charAt 0
    if isWordChar c then
      w := w.push c
      skip
    else break
  return w

/-- One number of a `%YAML` directive: at most nine digits. -/
def scanVersionNumber (start : Mark) : Scan Nat := do
  let mut value := 0
  let mut length := 0
  for _ in [0:10] do
    let c ← charAt 0
    if !c.isDigit then break
    length := length + 1
    if length > 9 then
      fail "while scanning a %YAML directive" start "found extremely long version number"
    value := value * 10 + (c.toNat - '0'.toNat)
    skip
  if length == 0 then
    fail "while scanning a %YAML directive" start "did not find expected version number"
  return value

/-- Decodes `%XX` escapes in a tag, one UTF-8 sequence. -/
def scanUriEscapes (directive : Bool) (start : Mark) : Scan String := do
  let ctx := if directive then "while parsing a %TAG directive" else "while parsing a tag"
  let mut width := 0
  let mut bytes : Array UInt8 := #[]
  for _ in [0:4] do
    let c0 ← charAt 0
    let c1 ← charAt 1
    let c2 ← charAt 2
    if !(c0 == '%' && isHexDigit c1 && isHexDigit c2) then
      fail ctx start "did not find URI escaped octet"
    let octet := hexDigitValue c1 * 16 + hexDigitValue c2
    if width == 0 then
      width :=
        if octet &&& 0x80 == 0 then 1 else if octet &&& 0xE0 == 0xC0 then 2
        else if octet &&& 0xF0 == 0xE0 then 3 else if octet &&& 0xF8 == 0xF0 then 4 else 0
      if width == 0 then fail ctx start "found an incorrect leading UTF-8 octet"
    else if octet &&& 0xC0 != 0x80 then
      fail ctx start "found an incorrect trailing UTF-8 octet"
    bytes := bytes.push octet.toUInt8
    skip
    skip
    skip
    width := width - 1
    if width == 0 then break
  return (String.fromUTF8? ⟨bytes⟩).getD "\uFFFD"

/-- Whether a character may stand in a tag; inside `!<...>` also `,`, `[` and `]`. -/
def isUriChar (c : Char) (verbatim : Bool) : Bool :=
  isWordChar c || ";/?:@&=+$.%!~*()".contains c || c == '\x27' ||
    (verbatim && (c == ',' || c == '[' || c == ']'))

/-- Reads the rest of a tag; `head` is what was read as a handle, kept without its
leading `!`. An empty tag is a problem. -/
def scanTagUri (verbatim directive : Bool) (head : String) (start : Mark) : Scan String := do
  let mut length := head.length
  let mut out := if head.length > 1 then head.drop 1 |>.toString else ""
  let m ← remaining
  for _ in [0:m] do
    let c ← charAt 0
    if !isUriChar c verbatim then break
    if c == '%' then
      out := out ++ (← scanUriEscapes directive start)
    else
      out := out.push c
      skip
    length := length + 1
  if length == 0 then
    fail (if directive then "while parsing a %TAG directive" else "while parsing a tag") start
      "did not find expected tag URI"
  return out

/-- Reads a tag handle: `!`, `!!` or `!word!`. -/
def scanTagHandle (directive : Bool) (start : Mark) : Scan String := do
  if (← charAt 0) != '!' then
    fail (if directive then "while scanning a tag directive" else "while scanning a tag") start
      "did not find expected \x27!\x27"
  skip
  let mut h := "!" ++ (← readWord)
  if (← charAt 0) == '!' then
    h := h.push '!'
    skip
  else if directive && h != "!" then
    fail "while parsing a tag directive" start "did not find expected \x27!\x27"
  return h

/-- Reads a directive line: `%YAML major.minor` or `%TAG handle prefix`. -/
def scanDirective : Scan Token := do
  let start ← here
  skip
  let name ← readWord
  if name.isEmpty then
    fail "while scanning a directive" start "could not find expected directive name"
  if !isBlankOrEnd (← charAt 0) then
    fail "while scanning a directive" start "found unexpected non-alphabetical character"
  let kind ← if name == "YAML" then do
      let m ← remaining
      for _ in [0:m] do
        if isBlank (← charAt 0) then skip else break
      let major ← scanVersionNumber start
      if (← charAt 0) != '.' then
        fail "while scanning a %YAML directive" start
          "did not find expected digit or \x27.\x27 character"
      skip
      let minor ← scanVersionNumber start
      pure (TokenKind.versionDirective major minor)
    else if name == "TAG" then do
      let m ← remaining
      for _ in [0:m] do
        if isBlank (← charAt 0) then skip else break
      let handle ← scanTagHandle true start
      if !isBlank (← charAt 0) then
        fail "while scanning a %TAG directive" start "did not find expected whitespace"
      let m ← remaining
      for _ in [0:m] do
        if isBlank (← charAt 0) then skip else break
      let pre ← scanTagUri true true "" start
      if !isBlankOrEnd (← charAt 0) then
        fail "while scanning a %TAG directive" start
          "did not find expected whitespace or line break"
      pure (TokenKind.tagDirective handle pre)
    else
      fail "while scanning a directive" start "found unknown directive name"
  let stop ← here
  skipToLineEnd
  if !isBreakOrEnd (← charAt 0) then
    fail "while scanning a directive" start "did not find expected comment or line break"
  if isBreak (← charAt 0) then skipLine
  return ⟨kind, start, stop⟩

/-- Reads an anchor `&name` or an alias `*name`. -/
def scanAnchor (isAlias : Bool) : Scan Token := do
  let start ← here
  skip
  let name ← readWord
  let stop ← here
  let c ← charAt 0
  if name.isEmpty || !(isBlankOrEnd c || c == '?' || c == ':' || c == ',' || c == ']' ||
      c == '}' || c == '%' || c == '@' || c == '\x60') then
    fail (if isAlias then "while scanning an alias" else "while scanning an anchor") start
      "did not find expected alphabetic or numeric character"
  return ⟨if isAlias then .alias name else .anchor name, start, stop⟩

/-- Reads a tag: `!<uri>`, `!suffix`, `!handle!suffix` or the lone `!`. -/
def scanTag : Scan Token := do
  let start ← here
  let mut handle := ""
  let mut suffix := ""
  if (← charAt 1) == '<' then
    skip
    skip
    suffix ← scanTagUri true false "" start
    if (← charAt 0) != '>' then
      fail "while scanning a tag" start "did not find the expected \x27>\x27"
    skip
  else
    let h ← scanTagHandle false start
    if h.length > 1 && h.endsWith "!" then
      handle := h
      suffix ← scanTagUri false false "" start
    else
      suffix ← scanTagUri false false h start
      handle := "!"
      if suffix.isEmpty then
        handle := ""
        suffix := "!"
  let c ← charAt 0
  if !isBlankOrEnd c then
    if (← get).flowLevel == 0 || c != ',' then
      fail "while scanning a tag" start "did not find expected whitespace or line break"
  return ⟨.tag handle suffix, start, (← here)⟩

/-- Moves past indentation and empty lines before or inside a block scalar, collecting
the line breaks. With `indent = 0` the indentation is found: the deepest column of the
leading empty lines, at least one more than the enclosing indentation, at least 1. -/
def scanBlockScalarBreaks (indent : Nat) (breaks : String) (start : Mark) :
    Scan (Nat × String × Mark) := do
  let mut breaks := breaks
  let mut stop ← here
  let mut maxIndent := 0
  let n ← remaining
  for _ in [0:n] do
    let m ← remaining
    for _ in [0:m] do
      if (indent == 0 || (← here).column < indent) && (← charAt 0) == ' ' then skip
      else break
    let col := (← here).column
    if col > maxIndent then maxIndent := col
    if (indent == 0 || col < indent) && (← charAt 0) == '\t' then
      fail "while scanning a block scalar" start
        "found a tab character where an indentation space is expected"
    if !isBreak (← charAt 0) then break
    breaks := breaks ++ (← readLine)
    stop ← here
  if indent == 0 then
    let base : Int := (← get).indent + 1
    let found : Int := max (max (maxIndent : Int) base) 1
    return (found.toNat, breaks, stop)
  return (indent, breaks, stop)

/-- Reads a literal (`|`) or folded (`>`) block scalar with its chomping and
indentation indicators. -/
def scanBlockScalar (literal : Bool) : Scan Token := do
  let start ← here
  skip
  let mut chomping : Int := 0
  let mut increment := 0
  let c ← charAt 0
  if c == '+' || c == '-' then
    chomping := if c == '+' then 1 else -1
    skip
    let d ← charAt 0
    if d.isDigit then
      if d == '0' then
        fail "while scanning a block scalar" start "found an indentation indicator equal to 0"
      increment := d.toNat - '0'.toNat
      skip
  else if c.isDigit then
    if c == '0' then
      fail "while scanning a block scalar" start "found an indentation indicator equal to 0"
    increment := c.toNat - '0'.toNat
    skip
    let d ← charAt 0
    if d == '+' || d == '-' then
      chomping := if d == '+' then 1 else -1
      skip
  skipToLineEnd
  if !isBreakOrEnd (← charAt 0) then
    fail "while scanning a block scalar" start "did not find expected comment or line break"
  if isBreak (← charAt 0) then skipLine
  let outer := (← get).indent
  let mut indent : Nat := 0
  if increment != 0 then
    indent := if outer ≥ 0 then (outer + increment).toNat else increment
  let (i, tb, e) ← scanBlockScalarBreaks indent "" start
  indent := i
  let mut trailingBreaks := tb
  let mut stop := e
  let mut text := ""
  let mut leadingBreak := ""
  let mut leadingBlank := false
  let n ← remaining
  for _ in [0:n] do
    let c ← charAt 0
    if !((← here).column == indent && !isEnd c) then break
    let trailingBlank := isBlank c
    if !literal && leadingBreak.startsWith "\n" && !leadingBlank && !trailingBlank then
      if trailingBreaks.isEmpty then text := text.push ' '
    else
      text := text ++ leadingBreak
    leadingBreak := ""
    text := text ++ trailingBreaks
    leadingBlank := isBlank c
    let m ← remaining
    for _ in [0:m] do
      let d ← charAt 0
      if isBreakOrEnd d then break
      text := text.push d
      skip
    if isBreak (← charAt 0) then leadingBreak ← readLine
    let (i, tb, e) ← scanBlockScalarBreaks indent "" start
    indent := i
    trailingBreaks := tb
    stop := e
  if chomping != -1 then text := text ++ leadingBreak
  if chomping == 1 then text := text ++ trailingBreaks
  return ⟨.scalar text (if literal then .literal else .folded), start, stop⟩

/-- The character a double-quoted escape stands for, with the number of hexadecimal
digits that follow for `x`, `u` and `U`; `none` for an unknown escape. -/
def escapeOf (c : Char) : Option (String × Nat) :=
  match c with
  | '0' => some ("\x00", 0) | 'a' => some ("\x07", 0) | 'b' => some ("\x08", 0)
  | 't' => some ("\t", 0) | '\t' => some ("\t", 0) | 'n' => some ("\n", 0)
  | 'v' => some ("\x0B", 0) | 'f' => some ("\x0C", 0) | 'r' => some ("\r", 0)
  | 'e' => some ("\x1B", 0) | ' ' => some (" ", 0) | '"' => some ("\"", 0)
  | '/' => some ("/", 0) | '\x27' => some ("\x27", 0) | '\\' => some ("\\", 0)
  | 'N' => some ("\x85", 0) | '_' => some ("\xA0", 0) | 'L' => some ("\u2028", 0)
  | 'P' => some ("\u2029", 0) | 'x' => some ("", 2) | 'u' => some ("", 4)
  | 'U' => some ("", 8) | _ => none

/-- Reads a single- or double-quoted scalar. Line breaks inside fold to a space, or
to the breaks after the first when there are several. -/
def scanFlowScalar (single : Bool) : Scan Token := do
  let start ← here
  let quote := if single then '\x27' else '"'
  skip
  let mut text := ""
  let mut leadingBreak := ""
  let mut trailingBreaks := ""
  let mut whitespaces := ""
  let n ← remaining
  for _ in [0:n] do
    if (← atDocumentIndicator) then
      fail "while scanning a quoted scalar" start "found unexpected document indicator"
    if isEnd (← charAt 0) then
      fail "while scanning a quoted scalar" start "found unexpected end of stream"
    let mut leadingBlanks := false
    let m ← remaining
    for _ in [0:m] do
      let c ← charAt 0
      if isBlankOrEnd c then break
      let d ← charAt 1
      if single && c == '\x27' && d == '\x27' then
        text := text.push '\x27'
        skip
        skip
      else if c == quote then break
      else if !single && c == '\\' && isBreak d then
        skip
        skipLine
        leadingBlanks := true
        break
      else if !single && c == '\\' then
        match escapeOf d with
        | none => fail "while parsing a quoted scalar" start "found unknown escape character"
        | some (out, codeLength) =>
          text := text ++ out
          skip
          skip
          if codeLength > 0 then
            let mut v := 0
            for k in [0:codeLength] do
              let h ← charAt k
              if !isHexDigit h then
                fail "while parsing a quoted scalar" start
                  "did not find expected hexdecimal number"
              v := v * 16 + hexDigitValue h
            if (0xD800 ≤ v && v ≤ 0xDFFF) || v > 0x10FFFF then
              fail "while parsing a quoted scalar" start
                "found invalid Unicode character escape code"
            text := text.push (Char.ofNat v)
            for _ in [0:codeLength] do skip
      else
        text := text.push c
        skip
    if (← charAt 0) == quote then break
    let m ← remaining
    for _ in [0:m] do
      let c ← charAt 0
      if isBlank c then
        if !leadingBlanks then whitespaces := whitespaces.push c
        skip
      else if isBreak c then
        if !leadingBlanks then
          whitespaces := ""
          leadingBreak ← readLine
          leadingBlanks := true
        else
          trailingBreaks := trailingBreaks ++ (← readLine)
      else break
    if leadingBlanks then
      if leadingBreak.startsWith "\n" then
        if trailingBreaks.isEmpty then text := text.push ' '
        else text := text ++ trailingBreaks
      else
        text := text ++ leadingBreak ++ trailingBreaks
      leadingBreak := ""
      trailingBreaks := ""
    else
      text := text ++ whitespaces
      whitespaces := ""
  skip
  return ⟨.scalar text (if single then .singleQuoted else .doubleQuoted), start, (← here)⟩

/-- Reads a plain scalar. It ends at `: `, at ` #`, at a flow indicator in flow
context, at a document marker, or at a line indented no deeper than the enclosing
block. A plain scalar spanning lines lets a simple key start after it. -/
def scanPlainScalar : Scan Token := do
  let start ← here
  let mut stop := start
  let s0 ← get
  let indent : Int := s0.indent + 1
  let flow := s0.flowLevel > 0
  let mut text := ""
  let mut leadingBreak := ""
  let mut trailingBreaks := ""
  let mut whitespaces := ""
  let mut leadingBlanks := false
  let n ← remaining
  for _ in [0:n] do
    if (← atDocumentIndicator) then break
    if (← charAt 0) == '#' then break
    let m ← remaining
    for _ in [0:m] do
      let c ← charAt 0
      if isBlankOrEnd c then break
      let d ← charAt 1
      if flow && c == ':' &&
          (d == ',' || d == '?' || d == '[' || d == ']' || d == '{' || d == '}') then
        fail "while scanning a plain scalar" start "found unexpected \x27:\x27"
      if (c == ':' && isBlankOrEnd d) ||
          (flow && (c == ',' || c == '[' || c == ']' || c == '{' || c == '}')) then break
      if leadingBlanks || !whitespaces.isEmpty then
        if leadingBlanks then
          if leadingBreak.startsWith "\n" then
            if trailingBreaks.isEmpty then text := text.push ' '
            else text := text ++ trailingBreaks
          else
            text := text ++ leadingBreak ++ trailingBreaks
          leadingBreak := ""
          trailingBreaks := ""
          leadingBlanks := false
        else
          text := text ++ whitespaces
          whitespaces := ""
      text := text.push c
      skip
      stop ← here
    let c ← charAt 0
    if !(isBlank c || isBreak c) then break
    let m ← remaining
    for _ in [0:m] do
      let c ← charAt 0
      if isBlank c then
        if leadingBlanks && ((← here).column : Int) < indent && c == '\t' then
          fail "while scanning a plain scalar" start
            "found a tab character that violates indentation"
        if !leadingBlanks then whitespaces := whitespaces.push c
        skip
      else if isBreak c then
        if !leadingBlanks then
          whitespaces := ""
          leadingBreak ← readLine
          leadingBlanks := true
        else
          trailingBreaks := trailingBreaks ++ (← readLine)
      else break
    if !flow && ((← here).column : Int) < indent then break
  if leadingBlanks then modify fun s => { s with simpleKeyAllowed := true }
  return ⟨.scalar text .plain, start, stop⟩

/-- The first token: the stream start. -/
def fetchStreamStart : Scan Unit := do
  modify fun s => { s with indent := -1, simpleKeys := s.simpleKeys.push {},
                           simpleKeyAllowed := true, started := true }
  let m ← here
  enqueue ⟨.streamStart, m, m⟩

/-- The last token: the stream end, on a line of its own. -/
def fetchStreamEnd : Scan Unit := do
  modify fun s =>
    if s.mark.column != 0 then { s with mark := { s.mark with column := 0, line := s.mark.line + 1 } }
    else s
  unrollIndent (-1)
  removeSimpleKey
  modify fun s => { s with simpleKeyAllowed := false }
  let m ← here
  enqueue ⟨.streamEnd, m, m⟩

def fetchDirective : Scan Unit := do
  unrollIndent (-1)
  removeSimpleKey
  modify fun s => { s with simpleKeyAllowed := false }
  enqueue (← scanDirective)

/-- A three-character token: a document marker, or a one-character indicator. -/
def fetchIndicator (kind : TokenKind) (width : Nat) : Scan Unit := do
  let start ← here
  for _ in [0:width] do skip
  enqueue ⟨kind, start, (← here)⟩

/-- `---` or `...`: closes all blocks. -/
def fetchDocumentIndicator (kind : TokenKind) : Scan Unit := do
  unrollIndent (-1)
  removeSimpleKey
  modify fun s => { s with simpleKeyAllowed := false }
  fetchIndicator kind 3

/-- `[` or `{`: may be a simple key, and a simple key may follow. -/
def fetchFlowCollectionStart (kind : TokenKind) : Scan Unit := do
  saveSimpleKey
  increaseFlowLevel
  modify fun s => { s with simpleKeyAllowed := true }
  fetchIndicator kind 1

/-- `]` or `}`. -/
def fetchFlowCollectionEnd (kind : TokenKind) : Scan Unit := do
  removeSimpleKey
  decreaseFlowLevel
  modify fun s => { s with simpleKeyAllowed := false }
  fetchIndicator kind 1

/-- `,` in a flow collection. -/
def fetchFlowEntry : Scan Unit := do
  removeSimpleKey
  modify fun s => { s with simpleKeyAllowed := true }
  fetchIndicator .flowEntry 1

/-- `-` starting a block sequence entry. -/
def fetchBlockEntry : Scan Unit := do
  let s ← get
  if s.flowLevel == 0 then
    if !s.simpleKeyAllowed then
      failHere "block sequence entries are not allowed in this context"
    rollIndent s.mark.column none .blockSequenceStart s.mark
  removeSimpleKey
  modify fun s => { s with simpleKeyAllowed := true }
  fetchIndicator .blockEntry 1

/-- `?` starting an explicit key. -/
def fetchKey : Scan Unit := do
  let s ← get
  if s.flowLevel == 0 then
    if !s.simpleKeyAllowed then
      failHere "mapping keys are not allowed in this context"
    rollIndent s.mark.column none .blockMappingStart s.mark
  removeSimpleKey
  modify fun s => { s with simpleKeyAllowed := s.flowLevel == 0 }
  fetchIndicator .key 1

/-- `:` ending a key. When a simple key was remembered, its `KEY` token (and a block
mapping start) goes in front of it now. -/
def fetchValue : Scan Unit := do
  let s ← get
  match s.simpleKeys.back? with
  | some k =>
    if k.possible then
      modify fun s =>
        { s with tokens := insertAt s.tokens (k.tokenNumber - s.tokensTaken) ⟨.key, k.mark, k.mark⟩ }
      rollIndent k.mark.column (some k.tokenNumber) .blockMappingStart k.mark
      modify fun s =>
        { s with simpleKeys := s.simpleKeys.pop.push { k with possible := false },
                 simpleKeyAllowed := false }
    else
      if s.flowLevel == 0 then
        if !s.simpleKeyAllowed then
          failHere "mapping values are not allowed in this context"
        rollIndent s.mark.column none .blockMappingStart s.mark
      modify fun s => { s with simpleKeyAllowed := s.flowLevel == 0 }
  | none => pure ()
  fetchIndicator .value 1

/-- An anchor, alias or tag: may be a simple key. -/
def fetchProperty (scan : Scan Token) : Scan Unit := do
  saveSimpleKey
  modify fun s => { s with simpleKeyAllowed := false }
  enqueue (← scan)

/-- A block scalar: a simple key may follow it. -/
def fetchBlockScalar (literal : Bool) : Scan Unit := do
  removeSimpleKey
  modify fun s => { s with simpleKeyAllowed := true }
  enqueue (← scanBlockScalar literal)

/-- Whether a plain scalar may start at `c` followed by `d`. -/
def startsPlain (flow : Bool) (c d : Char) : Bool :=
  !(isBlankOrEnd c || "-?:,[]{}#&*!|>\"%@".contains c || c == '\x27' || c == '\x60') ||
    (c == '-' && !isBlank d) ||
    (!flow && (c == '?' || c == ':') && !isBlankOrEnd d)

def fetchNextToken : Scan Unit := do
  if !(← get).started then
    fetchStreamStart
    return
  scanToNextToken
  staleSimpleKeys
  unrollIndent (← here).column
  let c ← charAt 0
  let d ← charAt 1
  let s ← get
  let flow := s.flowLevel > 0
  let col0 := s.mark.column == 0
  if isEnd c then fetchStreamEnd
  else if col0 && c == '%' then fetchDirective
  else if col0 && c == '-' && d == '-' && (← charAt 2) == '-' && isBlankOrEnd (← charAt 3) then
    fetchDocumentIndicator .documentStart
  else if col0 && c == '.' && d == '.' && (← charAt 2) == '.' && isBlankOrEnd (← charAt 3) then
    fetchDocumentIndicator .documentEnd
  else if c == '[' then fetchFlowCollectionStart .flowSequenceStart
  else if c == '{' then fetchFlowCollectionStart .flowMappingStart
  else if c == ']' then fetchFlowCollectionEnd .flowSequenceEnd
  else if c == '}' then fetchFlowCollectionEnd .flowMappingEnd
  else if c == ',' then fetchFlowEntry
  else if c == '-' && isBlankOrEnd d then fetchBlockEntry
  else if c == '?' && (flow || isBlankOrEnd d) then fetchKey
  else if c == ':' && (flow || isBlankOrEnd d) then fetchValue
  else if c == '*' then fetchProperty (scanAnchor true)
  else if c == '&' then fetchProperty (scanAnchor false)
  else if c == '!' then fetchProperty scanTag
  else if c == '|' && !flow then fetchBlockScalar true
  else if c == '>' && !flow then fetchBlockScalar false
  else if c == '\x27' then fetchProperty (scanFlowScalar true)
  else if c == '"' then fetchProperty (scanFlowScalar false)
  else if startsPlain flow c d then fetchProperty scanPlainScalar
  else fail "while scanning for the next token" (← here) "found character that cannot start any token"

/-- Whether the head of the queue may still change: the queue is empty, or a
remembered key would insert its token at the head. -/
def needMoreTokens : Scan Bool := do
  if (← get).tokens.isEmpty then return true
  staleSimpleKeys
  let s ← get
  return s.simpleKeys.any fun k => k.possible && k.tokenNumber == s.tokensTaken

def fetchMoreTokens : Scan Unit := do
  let n ← remaining
  for _ in [0:2 * n + 8] do
    if !(← needMoreTokens) then break
    fetchNextToken
  modify fun s => { s with tokenReady := true }

def peekToken : Scan Token := do
  if !(← get).tokenReady then fetchMoreTokens
  match (← get).tokens with
  | t :: _ => return t
  | [] => failHere "did not find expected <stream-end>"

def takeToken : Scan Unit :=
  modify fun s =>
    { s with tokenReady := false, tokensTaken := s.tokensTaken + 1, tokens := s.tokens.drop 1 }

/-- The first character a YAML text may not hold, with its byte offset. -/
def firstForbidden (cs : List Char) (offset : Nat) : Option Nat :=
  match cs with
  | [] => none
  | c :: rest => if isPrintable c then firstForbidden rest (offset + c.utf8Size) else some offset

/-- A scanner at the start of `text`. A character a YAML text may not hold is a problem
reported before any token. -/
def start (text : String) : Except Problem Scanner :=
  match firstForbidden text.toList 0 with
  | some offset => .error { problem := "control characters are not allowed", offset }
  | none => .ok { input := text.toList.toArray }

end Scanner

end CapsuleFlow.Yaml
