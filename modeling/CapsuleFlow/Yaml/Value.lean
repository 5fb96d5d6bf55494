import CapsuleFlow.Yaml.Load
import CapsuleFlow.Yaml.Scalar
import CapsuleFlow.Json.Value
import CapsuleFlow.Text.Quote

/-!
# YAML documents as JSON values

A document reads as a JSON value node by node. Plain scalars resolve as described in
`CapsuleFlow.Yaml.Scalar`; quoted and block scalars are strings. The core tags
`!!bool`, `!!int`, `!!float` and `!!null` force a reading (and fail on a scalar that
does not have it); any other core tag leaves the text a string. A node with a local
tag (one starting with `!`) has no JSON reading.

Integers must fit an unsigned or a signed 64-bit integer; infinite and NaN floats
read as null. Mapping keys are the text of scalars, whatever they would denote; a later
key replaces an earlier equal one. Collections nest at most 128 deep.

The reading is bounded by fuel: every node read spends one, and the fuel given is
more than the number of nodes any reading can visit within the alias-jump limit.
-/

namespace CapsuleFlow.Yaml

open CapsuleFlow.Json

def boolTag : String := "tag:yaml.org,2002:bool"
def intTag : String := "tag:yaml.org,2002:int"
def floatTag : String := "tag:yaml.org,2002:float"
def nullTag : String := "tag:yaml.org,2002:null"

/-- Whether a tag is local (starts with `!`): such a node stands for an enum variant. -/
def isLocalTag (tag : Option String) : Bool :=
  match tag with
  | some t => t.startsWith "!"
  | none => false

/-- `invalid value: string "...", expected ...`. -/
def invalidString (text expected : String) : Failure :=
  .msg s!"invalid value: string {Text.quoted text}, expected {expected}"

/-- An integer as a JSON number: it must fit 64 bits, signed or unsigned. -/
def integerValue (i : Int) : Except Failure Value :=
  if -Int.pow 2 63 ≤ i && i < Int.pow 2 64 then .ok (.number (.int i))
  else .error (.msg "JSON number out of range")

/-- A float as a JSON value: null unless finite. -/
def floatValue (x : Float) : Value :=
  if isFiniteFloat x then .number (.float x) else .null

def untaggedValue (text : String) : Except Failure Value :=
  match resolvePlain text with
  | .null => .ok .null
  | .bool b => .ok (.bool b)
  | .integer i => integerValue i
  | .float x => .ok (floatValue x)
  | .text => .ok (.string text)

def scalarValue (tag : Option String) (text : String) (style : ScalarStyle) :
    Except Failure Value :=
  match tag with
  | some t =>
    if t == boolTag then
      match boolWord? text with
      | some b => .ok (.bool b)
      | none => .error (invalidString text "a boolean")
    else if t == intTag then
      match integer? text with
      | some i => integerValue i
      | none => .error (invalidString text "an integer")
    else if t == floatTag then
      match float? text with
      | some x => .ok (floatValue x)
      | none => .error (invalidString text "a float")
    else if t == nullTag then
      if isNullWord text then .ok .null else .error (invalidString text "null")
    else if t.startsWith "!" && style == .plain then untaggedValue text
    else .ok (.string text)
  | none => if style == .plain then untaggedValue text else .ok (.string text)

/-- The failure of a node with a local tag. -/
def enumFailure : Failure := .msg "invalid type: enum, expected any valid JSON value"

/-- A mapping key: the text of a scalar (through an alias if need be). A collection
as a key is a failure; the first key of a mapping expects `a string key`, the others
`a string`. Gives the key, the next position and the jumps made. -/
def keyAt (d : Document) (fuel : Nat) (path : Path) (pos jumps : Nat) (first : Bool) :
    Except Failure (String × Nat × Nat) := do
  let (node, mark) ← d.nodeAt pos
  let expected := if first then "a string key" else "a string"
  match node with
  | .scalar _ text _ => return (text, pos + 1, jumps)
  | .alias target =>
    match fuel with
    | 0 => throw .repetitionLimit
    | fuel + 1 =>
      if jumps + 1 > d.jumpLimit then throw .repetitionLimit
      let (k, _, jumps) ← keyAt d fuel (.alias path) target (jumps + 1) first
      return (k, pos + 1, jumps)
  | .sequenceStart _ =>
    throw ((Failure.msg s!"invalid type: sequence, expected {expected}").placed mark path)
  | .mappingStart _ =>
    throw ((Failure.msg s!"invalid type: map, expected {expected}").placed mark path)
  | _ => throw .endOfStream

mutual

/-- Reads the value at `pos` within `depth` more levels of nesting. Gives the value,
the position after it and the alias jumps made so far. -/
def valueAt (d : Document) : Nat → Path → Nat → Nat → Nat → Except Failure (Value × Nat × Nat)
  | 0, _, _, _, _ => .error .repetitionLimit
  | fuel + 1, path, depth, pos, jumps => do
    let (node, mark) ← d.nodeAt pos
    match node with
    | .alias target =>
      if jumps + 1 > d.jumpLimit then throw .repetitionLimit
      let (v, _, jumps) ← valueAt d fuel (.alias path) depth target (jumps + 1)
      return (v, pos + 1, jumps)
    | .scalar tag text style =>
      if isLocalTag tag then throw (enumFailure.placed mark path)
      match scalarValue tag text style with
      | .ok v => return (v, pos + 1, jumps)
      | .error e => throw (e.placed mark path)
    | .sequenceStart tag =>
      if isLocalTag tag then throw (enumFailure.placed mark path)
      if depth == 0 then throw (.recursionLimit mark)
      let (items, pos, jumps) ← itemsAt d fuel path (depth - 1) (pos + 1) jumps 0
      return (.array items, pos + 1, jumps)
    | .mappingStart tag =>
      if isLocalTag tag then throw (enumFailure.placed mark path)
      if depth == 0 then throw (.recursionLimit mark)
      let (members, pos, jumps) ← membersAt d fuel path (depth - 1) (pos + 1) jumps true
      return (Value.obj members, pos + 1, jumps)
    | .void => return (.null, pos + 1, jumps)
    | _ => throw .endOfStream

def itemsAt (d : Document) : Nat → Path → Nat → Nat → Nat → Nat →
    Except Failure (List Value × Nat × Nat)
  | 0, _, _, _, _, _ => .error .repetitionLimit
  | fuel + 1, path, depth, pos, jumps, i => do
    let (node, _) ← d.nodeAt pos
    match node with
    | .sequenceEnd | .void => return ([], pos, jumps)
    | _ =>
      let (v, pos, jumps) ← valueAt d fuel (.index path i) depth pos jumps
      let (rest, pos, jumps) ← itemsAt d fuel path depth pos jumps (i + 1)
      return (v :: rest, pos, jumps)

def membersAt (d : Document) : Nat → Path → Nat → Nat → Nat → Bool →
    Except Failure (List (String × Value) × Nat × Nat)
  | 0, _, _, _, _, _ => .error .repetitionLimit
  | fuel + 1, path, depth, pos, jumps, first => do
    let (node, _) ← d.nodeAt pos
    match node with
    | .mappingEnd | .void => return ([], pos, jumps)
    | _ =>
      let (k, pos, jumps) ← keyAt d fuel path pos jumps first
      let valuePath := match node with
        | .scalar _ text _ => Path.key path text
        | _ => Path.unknown path
      let (v, pos, jumps) ← valueAt d fuel valuePath depth pos jumps
      let (rest, pos, jumps) ← membersAt d fuel path depth pos jumps false
      return ((k, v) :: rest, pos, jumps)

end

/-- Fuel for reading a document: more than the nodes any reading visits. -/
def Document.fuel (d : Document) : Nat := (d.nodes.size + 1) * (d.jumpLimit + 2) + 2

/-- Reads YAML text as a JSON value: the first document, which must also be the only one. -/
def readValue (text : String) : Except Failure Value := do
  let (doc, more) := load text
  let (v, _, _) ← valueAt doc doc.fuel .root 128 0 0
  if let some e := doc.error then throw e
  if more then throw .moreThanOneDocument
  return v

end CapsuleFlow.Yaml
