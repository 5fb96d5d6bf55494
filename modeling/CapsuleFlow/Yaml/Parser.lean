import CapsuleFlow.Yaml.Scanner

/-!
# Parsing YAML tokens into events

The parser is a state machine over the token queue. Each call gives the next event of
the stream: stream and document boundaries, the start and end of sequences and
mappings, scalars and aliases. A state says what the grammar expects next; states to
come back to are kept on a stack, beside the marks where the enclosing collections
started (the context of a problem inside them).

Tags are resolved here: a handle is replaced by its prefix, `!` by `!` and `!!` by
`tag:yaml.org,2002:` unless a `%TAG` directive of the document says otherwise.
-/

namespace CapsuleFlow.Yaml

/-- The kinds of event. -/
inductive EventKind where
  | streamStart | streamEnd
  | documentStart (implicit : Bool)
  | documentEnd (implicit : Bool)
  | alias (name : String)
  | scalar (anchor tag : Option String) (text : String) (style : ScalarStyle)
  | sequenceStart (anchor tag : Option String)
  | sequenceEnd
  | mappingStart (anchor tag : Option String)
  | mappingEnd
  deriving DecidableEq, Repr, Inhabited

/-- An event with the marks where it starts and ends. -/
structure Event where
  kind : EventKind
  start : Mark
  stop : Mark
  deriving Repr, Inhabited

/-- What the grammar expects next. -/
inductive Phase where
  | streamStart | implicitDocumentStart | documentStart | documentContent | documentEnd
  | blockNode | blockNodeOrIndentlessSequence | flowNode
  | blockSequenceFirstEntry | blockSequenceEntry | indentlessSequenceEntry
  | blockMappingFirstKey | blockMappingKey | blockMappingValue
  | flowSequenceFirstEntry | flowSequenceEntry
  | flowSequenceEntryMappingKey | flowSequenceEntryMappingValue
  | flowSequenceEntryMappingEnd
  | flowMappingFirstKey | flowMappingKey | flowMappingValue | flowMappingEmptyValue
  | finished
  deriving DecidableEq, Repr, Inhabited

/-- The parser: the scanner, the expected phase, the phases and marks of the enclosing
collections, and the tag handles in force. -/
structure Parser where
  scanner : Scanner
  phase : Phase := .streamStart
  phases : List Phase := []
  marks : List Mark := []
  tagDirectives : List (String × String) := []
  deriving Inhabited

abbrev Parse := StateT Parser (Except Problem)

namespace Parser

def scan (m : Scan α) : Parse α := fun p => do
  let (a, s) ← m p.scanner
  return (a, { p with scanner := s })

/-- The next token, not taken. -/
def peek : Parse Token := scan Scanner.peekToken

def take : Parse Unit := scan Scanner.takeToken

/-- Stops with a problem at `mark`. -/
def failAt (problem : String) (mark : Mark) : Parse α :=
  throw { problem, mark }

/-- Stops with a problem at `mark` found while reading what began at `contextMark`. -/
def failIn (context : String) (contextMark : Mark) (problem : String) (mark : Mark) :
    Parse α :=
  throw { problem, mark, context := some (context, contextMark) }

def goTo (ph : Phase) : Parse Unit := modify fun p => { p with phase := ph }

def pushPhase (ph : Phase) : Parse Unit := modify fun p => { p with phases := ph :: p.phases }

/-- Comes back to the last remembered phase. -/
def popPhase : Parse Unit := modify fun p =>
  match p.phases with
  | ph :: rest => { p with phase := ph, phases := rest }
  | [] => { p with phase := .finished }

def pushMark (m : Mark) : Parse Unit := modify fun p => { p with marks := m :: p.marks }

/-- Forgets the start of the innermost collection and gives it. -/
def popMark : Parse Mark := do
  let p ← get
  match p.marks with
  | m :: rest =>
    set { p with marks := rest }
    return m
  | [] => return {}

/-- An empty plain scalar at `mark`, standing for a missing node. -/
def emptyScalar (mark : Mark) : Event := ⟨.scalar none none "" .plain, mark, mark⟩

def defaultTagDirectives : List (String × String) :=
  [("!", "!"), ("!!", "tag:yaml.org,2002:")]

def processDirectives : Parse Unit := do
  let mut version := false
  let mut tags : List (String × String) := []
  let mut t ← peek
  for _ in [0:(← get).scanner.input.size + 2] do
    match t.kind with
    | .versionDirective major minor =>
      if version then failAt "found duplicate %YAML directive" t.start
      if major != 1 || (minor != 1 && minor != 2) then
        failAt "found incompatible YAML document" t.start
      version := true
    | .tagDirective handle pre =>
      if tags.any (·.1 == handle) then failAt "found duplicate %TAG directive" t.start
      tags := tags ++ [(handle, pre)]
    | _ => break
    take
    t ← peek
  let extra := defaultTagDirectives.filter fun d => !tags.any (·.1 == d.1)
  modify fun p => { p with tagDirectives := tags ++ extra }

/-- Parses a node: an alias, or properties (anchor, tag) then a scalar or the start
of a collection. `block` allows block collections; `indentless` allows a block
sequence at the indentation of its mapping key. -/
def parseNode (block indentless : Bool) : Parse Event := do
  let t ← peek
  if let .alias name := t.kind then
    popPhase
    take
    return ⟨.alias name, t.start, t.stop⟩
  let mut t := t
  let mut anchor : Option String := none
  let mut tagParts : Option (String × String) := none
  let mut start := t.start
  let mut stop := t.start
  let mut tagMark := t.start
  match t.kind with
  | .anchor name =>
    anchor := some name
    stop := t.stop
    take
    t ← peek
    if let .tag h s := t.kind then
      tagParts := some (h, s)
      tagMark := t.start
      stop := t.stop
      take
      t ← peek
  | .tag h s =>
    tagParts := some (h, s)
    tagMark := t.start
    stop := t.stop
    take
    t ← peek
    if let .anchor name := t.kind then
      anchor := some name
      stop := t.stop
      take
      t ← peek
  | _ => pure ()
  let mut tag : Option String := none
  if let some (h, s) := tagParts then
    if h.isEmpty then tag := some s
    else
      match (← get).tagDirectives.find? (·.1 == h) with
      | some (_, pre) => tag := some (pre ++ s)
      | none => failIn "while parsing a node" start "found undefined tag handle" tagMark
  if indentless && t.kind == .blockEntry then
    goTo .indentlessSequenceEntry
    return ⟨.sequenceStart anchor tag, start, t.stop⟩
  match t.kind with
  | .scalar text style =>
    popPhase
    take
    return ⟨.scalar anchor tag text style, start, t.stop⟩
  | .flowSequenceStart =>
    goTo .flowSequenceFirstEntry
    return ⟨.sequenceStart anchor tag, start, t.stop⟩
  | .flowMappingStart =>
    goTo .flowMappingFirstKey
    return ⟨.mappingStart anchor tag, start, t.stop⟩
  | .blockSequenceStart =>
    if block then
      goTo .blockSequenceFirstEntry
      return ⟨.sequenceStart anchor tag, start, t.stop⟩
  | .blockMappingStart =>
    if block then
      goTo .blockMappingFirstKey
      return ⟨.mappingStart anchor tag, start, t.stop⟩
  | _ => pure ()
  if anchor.isSome || tag.isSome then
    popPhase
    return ⟨.scalar anchor tag "" .plain, start, stop⟩
  failIn (if block then "while parsing a block node" else "while parsing a flow node") start
    "did not find expected node content" t.start

/-- The start of a document: implicit (content without `---`) only for the first. -/
def parseDocumentStart (implicit : Bool) : Parse Event := do
  let mut t ← peek
  if !implicit then
    for _ in [0:(← get).scanner.input.size + 2] do
      if t.kind != .documentEnd then break
      take
      t ← peek
  let isDirective := match t.kind with
    | .versionDirective .. | .tagDirective .. => true
    | _ => false
  if implicit && !isDirective && t.kind != .documentStart && t.kind != .streamEnd then
    processDirectives
    pushPhase .documentEnd
    goTo .blockNode
    return ⟨.documentStart true, t.start, t.start⟩
  if t.kind != .streamEnd then
    let start := t.start
    processDirectives
    let d ← peek
    if d.kind != .documentStart then
      failAt "did not find expected <document start>" d.start
    pushPhase .documentEnd
    goTo .documentContent
    take
    return ⟨.documentStart false, start, d.stop⟩
  goTo .finished
  take
  return ⟨.streamEnd, t.start, t.stop⟩

def parseDocumentContent : Parse Event := do
  let t ← peek
  match t.kind with
  | .versionDirective .. | .tagDirective .. | .documentStart | .documentEnd | .streamEnd =>
    popPhase
    return emptyScalar t.start
  | _ => parseNode true false

/-- The end of a document, with or without `...`. -/
def parseDocumentEnd : Parse Event := do
  let t ← peek
  let start := t.start
  let mut stop := t.start
  let mut implicit := true
  if t.kind == .documentEnd then
    stop := t.stop
    take
    implicit := false
  modify fun p => { p with tagDirectives := [] }
  goTo .documentStart
  return ⟨.documentEnd implicit, start, stop⟩

def parseBlockSequenceEntry (first : Bool) : Parse Event := do
  if first then
    pushMark (← peek).start
    take
  let t ← peek
  if t.kind == .blockEntry then
    let mark := t.stop
    take
    let t ← peek
    if t.kind != .blockEntry && t.kind != .blockEnd then
      pushPhase .blockSequenceEntry
      parseNode true false
    else
      goTo .blockSequenceEntry
      return emptyScalar mark
  else if t.kind == .blockEnd then
    popPhase
    let _ ← popMark
    take
    return ⟨.sequenceEnd, t.start, t.stop⟩
  else
    failIn "while parsing a block collection" (← popMark)
      "did not find expected \x27-\x27 indicator" t.start

def parseIndentlessSequenceEntry : Parse Event := do
  let t ← peek
  if t.kind == .blockEntry then
    let mark := t.stop
    take
    let t ← peek
    if t.kind != .blockEntry && t.kind != .key && t.kind != .value && t.kind != .blockEnd then
      pushPhase .indentlessSequenceEntry
      parseNode true false
    else
      goTo .indentlessSequenceEntry
      return emptyScalar mark
  else
    popPhase
    return ⟨.sequenceEnd, t.start, t.start⟩

def parseBlockMappingKey (first : Bool) : Parse Event := do
  if first then
    pushMark (← peek).start
    take
  let t ← peek
  if t.kind == .key then
    let mark := t.stop
    take
    let t ← peek
    if t.kind != .key && t.kind != .value && t.kind != .blockEnd then
      pushPhase .blockMappingValue
      parseNode true true
    else
      goTo .blockMappingValue
      return emptyScalar mark
  else if t.kind == .blockEnd then
    popPhase
    let _ ← popMark
    take
    return ⟨.mappingEnd, t.start, t.stop⟩
  else
    failIn "while parsing a block mapping" (← popMark) "did not find expected key" t.start

def parseBlockMappingValue : Parse Event := do
  let t ← peek
  if t.kind == .value then
    let mark := t.stop
    take
    let t ← peek
    if t.kind != .key && t.kind != .value && t.kind != .blockEnd then
      pushPhase .blockMappingKey
      parseNode true true
    else
      goTo .blockMappingKey
      return emptyScalar mark
  else
    goTo .blockMappingKey
    return emptyScalar t.start

/-- An entry of a flow sequence, or its end; `a: b` inside makes a one-pair mapping. -/
def parseFlowSequenceEntry (first : Bool) : Parse Event := do
  if first then
    pushMark (← peek).start
    take
  let mut t ← peek
  if t.kind != .flowSequenceEnd then
    if !first then
      if t.kind == .flowEntry then
        take
        t ← peek
      else
        failIn "while parsing a flow sequence" (← popMark)
          "did not find expected \x27,\x27 or \x27]\x27" t.start
    if t.kind == .key then
      goTo .flowSequenceEntryMappingKey
      take
      return ⟨.mappingStart none none, t.start, t.stop⟩
    else if t.kind != .flowSequenceEnd then
      pushPhase .flowSequenceEntry
      return (← parseNode false false)
  popPhase
  let _ ← popMark
  take
  return ⟨.sequenceEnd, t.start, t.stop⟩

def parseFlowSequenceEntryMappingKey : Parse Event := do
  let t ← peek
  if t.kind != .value && t.kind != .flowEntry && t.kind != .flowSequenceEnd then
    pushPhase .flowSequenceEntryMappingValue
    parseNode false false
  else
    goTo .flowSequenceEntryMappingValue
    return emptyScalar t.start

def parseFlowSequenceEntryMappingValue : Parse Event := do
  let mut t ← peek
  if t.kind == .value then
    take
    t ← peek
    if t.kind != .flowEntry && t.kind != .flowSequenceEnd then
      pushPhase .flowSequenceEntryMappingEnd
      return (← parseNode false false)
  goTo .flowSequenceEntryMappingEnd
  return emptyScalar t.start

def parseFlowSequenceEntryMappingEnd : Parse Event := do
  let t ← peek
  goTo .flowSequenceEntry
  return ⟨.mappingEnd, t.start, t.start⟩

def parseFlowMappingKey (first : Bool) : Parse Event := do
  if first then
    pushMark (← peek).start
    take
  let mut t ← peek
  if t.kind != .flowMappingEnd then
    if !first then
      if t.kind == .flowEntry then
        take
        t ← peek
      else
        failIn "while parsing a flow mapping" (← popMark)
          "did not find expected \x27,\x27 or \x27\x7d\x27" t.start
    if t.kind == .key then
      take
      let k ← peek
      if k.kind != .value && k.kind != .flowEntry && k.kind != .flowMappingEnd then
        pushPhase .flowMappingValue
        return (← parseNode false false)
      else
        goTo .flowMappingValue
        return emptyScalar k.start
    else if t.kind != .flowMappingEnd then
      pushPhase .flowMappingEmptyValue
      return (← parseNode false false)
  popPhase
  let _ ← popMark
  take
  return ⟨.mappingEnd, t.start, t.stop⟩

/-- A value of a flow mapping; `empty` when the key stood alone. -/
def parseFlowMappingValue (empty : Bool) : Parse Event := do
  let mut t ← peek
  if empty then
    goTo .flowMappingKey
    return emptyScalar t.start
  if t.kind == .value then
    take
    t ← peek
    if t.kind != .flowEntry && t.kind != .flowMappingEnd then
      pushPhase .flowMappingKey
      return (← parseNode false false)
  goTo .flowMappingKey
  return emptyScalar t.start

/-- The next event of the stream; after the stream end, the stream end again. -/
def nextEvent : Parse Event := do
  match (← get).phase with
  | .streamStart =>
    let t ← peek
    if t.kind != .streamStart then failAt "did not find expected <stream-start>" t.start
    goTo .implicitDocumentStart
    take
    return ⟨.streamStart, t.start, t.start⟩
  | .implicitDocumentStart => parseDocumentStart true
  | .documentStart => parseDocumentStart false
  | .documentContent => parseDocumentContent
  | .documentEnd => parseDocumentEnd
  | .blockNode => parseNode true false
  | .blockNodeOrIndentlessSequence => parseNode true true
  | .flowNode => parseNode false false
  | .blockSequenceFirstEntry => parseBlockSequenceEntry true
  | .blockSequenceEntry => parseBlockSequenceEntry false
  | .indentlessSequenceEntry => parseIndentlessSequenceEntry
  | .blockMappingFirstKey => parseBlockMappingKey true
  | .blockMappingKey => parseBlockMappingKey false
  | .blockMappingValue => parseBlockMappingValue
  | .flowSequenceFirstEntry => parseFlowSequenceEntry true
  | .flowSequenceEntry => parseFlowSequenceEntry false
  | .flowSequenceEntryMappingKey => parseFlowSequenceEntryMappingKey
  | .flowSequenceEntryMappingValue => parseFlowSequenceEntryMappingValue
  | .flowSequenceEntryMappingEnd => parseFlowSequenceEntryMappingEnd
  | .flowMappingFirstKey => parseFlowMappingKey true
  | .flowMappingKey => parseFlowMappingKey false
  | .flowMappingValue => parseFlowMappingValue false
  | .flowMappingEmptyValue => parseFlowMappingValue true
  | .finished =>
    let m := (← get).scanner.mark
    return ⟨.streamEnd, m, m⟩

end Parser

end CapsuleFlow.Yaml
