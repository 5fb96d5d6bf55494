import CapsuleFlow.Decode.FromValue
import CapsuleFlow.Yaml.Value

/-!
# Reading typed data from a YAML document

A loaded YAML document read against a shape, node by node. What each shape accepts:

* booleans, integers and floats: a plain scalar (any scalar inside a tagged enum
  variant) whose text reads as one; integers must fit 64 bits before the shape's own
  range is checked;
* strings: any scalar, whatever it would otherwise denote;
* records and maps: a mapping; an empty plain scalar or an empty document reads as a
  mapping with no entries, so that every field takes its default. Sequences do not;
* sequences and tuples: a sequence, or an empty plain scalar as the empty sequence; a
  tuple given more elements than it has reports the count;
* options: an empty or null plain scalar is `none`;
* enums: a scalar naming a unit variant, or a node with a local tag `!Variant` whose
  content is what the variant carries.

An error is placed at the node whose reading raised it, with that node's path; an error
raised by a record, a sequence or an enum as a whole (a missing field, a check of a
nested value) is placed at that record's node. Aliases read as the node they name, within
the document's jump limit.
-/

namespace CapsuleFlow.Decode

open CapsuleFlow.Yaml

def yamlU64Max : Nat := Nat.pow 2 64 - 1

def unsigned64? (s : String) : Option Nat :=
  (unsignedInteger? s).filter (· ≤ yamlU64Max)

def signed64? (s : String) : Option Int :=
  (integer? s).filter fun i => -Int.pow 2 63 ≤ i && i < Int.pow 2 63

/-- What an integer read from a scalar is, for messages: 64-bit values as themselves,
wider ones named with their 128-bit type. -/
def integerUnexpected (i : Int) : Unexpected :=
  if 0 ≤ i then
    if i.toNat ≤ yamlU64Max then .unsigned i.toNat else .other s!"integer `{i}` as u128"
  else if -Int.pow 2 63 ≤ i then .signed i
  else .other s!"integer `{i}` as i128"

/-- The message for a scalar that is not what was expected: what the scalar denotes by
its tag or, untagged and plain, by its text; a core tag the text does not fit is an
invalid value of that tag. -/
def scalarMismatch (tag : Option String) (text : String) (style : ScalarStyle)
    (expected : String) : String :=
  let asType (u : Unexpected) : String := invalidType .plain u expected
  let asValue (what : String) : String := invalidValue .plain (.str text) what
  let untagged : String :=
    match resolvePlain text with
    | .null => asType .unit
    | .bool b => asType (.bool b)
    | .integer i => asType (integerUnexpected i)
    | .float x => asType (.float x)
    | .text => asType (.str text)
  match tag with
  | some t =>
    if t == boolTag then
      match boolWord? text with
      | some b => asType (.bool b)
      | none => asValue "a boolean"
    else if t == intTag then
      match integer? text with
      | some i => asType (integerUnexpected i)
      | none => asValue "an integer"
    else if t == floatTag then
      match float? text with
      | some x => asType (.float x)
      | none => asValue "a float"
    else if t == nullTag then
      if isNullWord text then asType .unit else asValue "null"
    else if t.startsWith "!" && style == .plain then untagged
    else asType (.str text)
  | none => if style == .plain then untagged else asType (.str text)

/-- The failure for a node that is not what was expected; an empty document has nothing
to read. -/
def nodeMismatch (node : Yaml.Node) (expected : String) : Yaml.Failure :=
  match node with
  | .scalar tag text style => .msg (scalarMismatch tag text style expected)
  | .sequenceStart _ => .msg (invalidType .plain .seq expected)
  | .mappingStart _ => .msg (invalidType .plain .map expected)
  | _ => .endOfStream

/-- The variant a local tag names: the tag without its `!`, or `!` itself. -/
def localVariant (tag : Option String) : Option String :=
  match tag with
  | some t =>
    if t.startsWith "!" then
      let rest := (t.drop 1).toString
      some (if rest.isEmpty then t else rest)
    else none
  | none => none

/-- A scalar shape read from one node that is not an alias. `tagged` when the node is
the content of a tagged enum variant: then any scalar style is read by its text. -/
def scalarDatum (tagged : Bool) (shape : Shape) (node : Yaml.Node) : Except Yaml.Failure Datum :=
  let mismatch : Except Yaml.Failure Datum := .error (nodeMismatch node shape.expected)
  match node with
  | .scalar _ text style =>
    let byText := tagged || style == .plain
    match shape with
    | .bool =>
      match byText, boolWord? text with
      | true, some b => .ok (.bool b)
      | _, _ => mismatch
    | .unsigned name max =>
      match byText, unsigned64? text with
      | true, some n =>
        if n ≤ max then .ok (.int n) else .error (.msg (invalidValue .plain (.unsigned n) name))
      | _, _ => mismatch
    | .signed name min max =>
      match byText, signed64? text with
      | true, some i =>
        if min ≤ i && i ≤ max then .ok (.int i)
        else .error (.msg (invalidValue .plain (.signed i) name))
      | _, _ => mismatch
    | .f64 =>
      match byText, float? text with
      | true, some x => .ok (.float x)
      | _, _ => mismatch
    | .f32 =>
      match byText, float? text with
      | true, some x => .ok (.single x.narrow)
      | _, _ => mismatch
    | .string _ => .ok (.str text)
    | .char =>
      match text.toList with
      | [c] => .ok (.char c)
      | _ => .error (.msg (invalidValue .plain (.str text) "a character"))
    | _ => mismatch
  | _ => mismatch

/-- The text of a mapping key, through aliases: a scalar's text; a collection fails as
not being `expected`, placed at the key with the mapping's path. -/
def keyText (d : Document) (path : Path) (expected : String) (pos jumps : Nat) :
    Nat → Except Yaml.Failure (String × Nat × Nat)
  | 0 => .error .repetitionLimit
  | fuel + 1 => do
    let (node, mark) ← d.nodeAt pos
    match node with
    | .scalar _ text _ => return (text, pos + 1, jumps)
    | .alias target =>
      let jumps ← d.jump jumps
      let (k, _, jumps) ← keyText d (.alias path) expected target jumps fuel
      return (k, pos + 1, jumps)
    | _ => throw ((nodeMismatch node expected).placed mark path)

/-- Skips the node at `pos` with all it contains (aliases are not followed). -/
def skipNode (d : Document) (pos : Nat) : Except Yaml.Failure Nat :=
  go pos 0 (d.nodes.size + 1)
where
  /-- `open_` counts the collections entered and not yet left. -/
  go (pos open_ : Nat) : Nat → Except Yaml.Failure Nat
    | 0 => .error .endOfStream
    | fuel + 1 => do
      let (node, _) ← d.nodeAt pos
      let open_ := match node with
        | .sequenceStart _ | .mappingStart _ => open_ + 1
        | .sequenceEnd | .mappingEnd => open_ - 1
        | _ => open_
      if open_ == 0 then return pos + 1 else go (pos + 1) open_ fuel

/-- Skips the elements left in a sequence, counting them; gives the count and the
position of the sequence's end. -/
def skipElements (d : Document) (pos : Nat) : Except Yaml.Failure (Nat × Nat) :=
  go pos 0 (d.nodes.size + 1)
where
  /-- `count` elements skipped so far. -/
  go (pos count : Nat) : Nat → Except Yaml.Failure (Nat × Nat)
    | 0 => .error .endOfStream
    | fuel + 1 => do
      let (node, _) ← d.nodeAt pos
      match node with
      | .sequenceEnd | .void => return (count, pos)
      | _ => go (← skipNode d pos) (count + 1) fuel

/-- `sequence of N elements`. -/
def sequenceOf (n : Nat) : String :=
  if n == 1 then "sequence of 1 element" else s!"sequence of {n} elements"

/-- The end of a collection: one step over its closing node. -/
def closeAt (d : Document) (pos : Nat) : Except Yaml.Failure Nat := do
  let _ ← d.nodeAt pos
  return pos + 1

/-- The `null` test of a scalar read as the unit: plain, and a null word (or empty) —
with a tag, only the null tag with a null word. -/
def isUnitScalar (tagged : Bool) (tag : Option String) (text : String) (style : ScalarStyle) :
    Bool :=
  if style != .plain then false
  else match tag, tagged with
    | some t, false => t == nullTag && isNullWord text
    | _, _ => text.isEmpty || isNullWord text

/-- Whether a scalar read as an option is present. A plain scalar tagged null must be a
null word. -/
def optionPresent (tagged : Bool) (tag : Option String) (text : String) (style : ScalarStyle) :
    Except Yaml.Failure Bool :=
  if style != .plain || tagged then .ok true
  else match tag with
    | some t =>
      if t == nullTag then
        if isNullWord text then .ok false
        else .error (.msg (invalidValue .plain (.str text) "null"))
      else .ok true
    | none => .ok (!(text.isEmpty || isNullWord text))

def nestedEnum (enumName tag : String) : String :=
  s!"deserializing nested enum in {enumName}::{tag} from YAML is not supported yet"

def untaggedEnum (u : Unexpected) : String :=
  invalidType .plain u "a YAML tag starting with \x27!\x27"

mutual

/-- Reads the node at `pos` against a shape, within `depth` more levels of nesting.
`tagged` names the enum and tag when the node is the content of a tagged variant. Gives
the datum, the position after the node and the alias jumps made so far. -/
def yamlValue (d : Document) (fuel : Nat) (path : Path) (depth : Nat)
    (tagged : Option (String × String)) (shape : Shape) (pos jumps : Nat) :
    Except Yaml.Failure (Datum × Nat × Nat) :=
  match fuel with
  | 0 => .error .repetitionLimit
  | fuel + 1 => do
    let (node, mark) ← d.nodeAt pos
    let fix (f : Yaml.Failure) : Yaml.Failure := f.placed mark path
    match shape with
    | .any =>
      let (v, pos, jumps) ← valueAt d fuel path depth pos jumps
      return (.json v, pos, jumps)
    | .numeral single =>
      let (v, pos, jumps) ← valueAt d fuel path depth pos jumps
      match readValue (.numeral single) v with
      | .ok x => return (x, pos, jumps)
      | .error m => throw (fix (.msg m))
    | .newtype inner =>
      if depth == 0 then throw (.recursionLimit mark)
      yamlValue d fuel path (depth - 1) tagged inner pos jumps
    | .checked inner check =>
      let (x, pos, jumps) ← yamlValue d fuel path depth tagged inner pos jumps
      match check x with
      | .ok x => return (x, pos, jumps)
      | .error m => throw (.msg m)
    | .enum name variants => yamlEnum d fuel path depth tagged name variants pos jumps
    | _ =>
    match node with
    | .alias target =>
      let jumps ← d.jump jumps
      let (x, _, jumps) ← yamlValue d fuel (.alias path) depth none shape target jumps
      return (x, pos + 1, jumps)
    | _ =>
    match shape with
    | .option inner =>
      let present ← match node with
        | .scalar tag text style => optionPresent tagged.isSome tag text style
        | .void => pure false
        | _ => pure true
      if present then
        let (x, pos, jumps) ← yamlValue d fuel path depth tagged inner pos jumps
        return (.some x, pos, jumps)
      else return (.none, pos + 1, jumps)
    | .unit expected =>
      match node with
      | .scalar tag text style =>
        if isUnitScalar tagged.isSome tag text style then return (.unit, pos + 1, jumps)
        else throw (fix (.msg (invalidValue .plain (.str text) "null")))
      | .void => return (.unit, pos + 1, jumps)
      | _ => throw (fix (nodeMismatch node expected))
    | .seq inner =>
      match node with
      | .sequenceStart _ =>
        if depth == 0 then throw (.recursionLimit mark)
        let (xs, p, j) ← (yamlElements d fuel path (depth - 1) inner (pos + 1) jumps 0 []).mapError fix
        let p ← closeAt d p
        return (.seq xs, p, j)
      | _ =>
        if node.isBlank then return (.seq [], pos + 1, jumps)
        else throw (fix (nodeMismatch node "a sequence"))
    | .tuple expected lengthExpected items =>
      yamlTuple d fuel path depth expected lengthExpected items node mark pos jumps
    | .record name fields =>
      yamlRecord d fuel path depth s!"struct {name}" fields node mark pos jumps
    | .map inner =>
      match node with
      | .mappingStart _ =>
        if depth == 0 then throw (.recursionLimit mark)
        let (es, p, j) ← (yamlEntries d fuel path (depth - 1) inner (pos + 1) jumps []).mapError fix
        let p ← closeAt d p
        return (.map es, p, j)
      | _ =>
        if node.isBlank then return (.map [], pos + 1, jumps)
        else throw (fix (nodeMismatch node "a map"))
    | _ =>
      match scalarDatum tagged.isSome shape node with
      | .ok x => return (x, pos + 1, jumps)
      | .error f => throw (fix f)
termination_by structural fuel

/-- A tuple from a sequence node (not an alias): exactly its items. -/
def yamlTuple (d : Document) (fuel : Nat) (path : Path) (depth : Nat)
    (expected lengthExpected : String) (items : List Shape) (node : Yaml.Node) (mark : Mark)
    (pos jumps : Nat) : Except Yaml.Failure (Datum × Nat × Nat) :=
  match fuel with
  | 0 => .error .repetitionLimit
  | fuel + 1 => do
    let fix (f : Yaml.Failure) : Yaml.Failure := f.placed mark path
    match node with
    | .sequenceStart _ =>
      if depth == 0 then throw (.recursionLimit mark)
      let (xs, p, j) ←
        (yamlItems d fuel path (depth - 1) lengthExpected items (pos + 1) jumps 0 []).mapError fix
      let (extra, p) ← skipElements d p
      let p ← closeAt d p
      if extra > 0 then
        throw (fix (.msg (invalidLength (items.length + extra) (sequenceOf items.length))))
      return (.seq xs, p, j)
    | _ =>
      if node.isBlank then
        if items.isEmpty then return (.seq [], pos + 1, jumps)
        else throw (fix (.msg (invalidLength 0 lengthExpected)))
      else throw (fix (nodeMismatch node expected))
termination_by structural fuel

/-- A record from a mapping node (not an alias), or from an empty node as a mapping with
no entries. -/
def yamlRecord (d : Document) (fuel : Nat) (path : Path) (depth : Nat) (expected : String)
    (fields : List (String × Shape × Absent)) (node : Yaml.Node) (mark : Mark) (pos jumps : Nat) :
    Except Yaml.Failure (Datum × Nat × Nat) :=
  match fuel with
  | 0 => .error .repetitionLimit
  | fuel + 1 => do
    let fix (f : Yaml.Failure) : Yaml.Failure := f.placed mark path
    match node with
    | .mappingStart _ =>
      if depth == 0 then throw (.recursionLimit mark)
      let (x, p, j) ←
        (yamlMembers d fuel path (depth - 1) fields (pos + 1) jumps (fields.map fun _ => none)).mapError fix
      let p ← closeAt d p
      return (x, p, j)
    | _ =>
      if node.isBlank then
        match finishRecord fields (fields.map fun _ => none) with
        | .ok x => return (x, pos + 1, jumps)
        | .error m => throw (fix (.msg m))
      else throw (fix (nodeMismatch node expected))
termination_by structural fuel

def yamlElements (d : Document) (fuel : Nat) (path : Path) (depth : Nat) (inner : Shape)
    (pos jumps i : Nat) (acc : List Datum) : Except Yaml.Failure (List Datum × Nat × Nat) :=
  match fuel with
  | 0 => .error .repetitionLimit
  | fuel + 1 => do
    let (node, _) ← d.nodeAt pos
    match node with
    | .sequenceEnd | .void => return (acc.reverse, pos, jumps)
    | _ =>
      let (x, pos, jumps) ← yamlValue d fuel (.index path i) depth none inner pos jumps
      yamlElements d fuel path depth inner pos jumps (i + 1) (x :: acc)
termination_by structural fuel

/-- The items of a tuple, one element each; a sequence that ends early is too short. -/
def yamlItems (d : Document) (fuel : Nat) (path : Path) (depth : Nat) (lengthExpected : String)
    (items : List Shape) (pos jumps i : Nat) (acc : List Datum) :
    Except Yaml.Failure (List Datum × Nat × Nat) :=
  match fuel with
  | 0 => .error .repetitionLimit
  | fuel + 1 =>
    match items with
    | [] => .ok (acc.reverse, pos, jumps)
    | shape :: rest => do
      let (node, _) ← d.nodeAt pos
      match node with
      | .sequenceEnd | .void => throw (.msg (invalidLength i lengthExpected))
      | _ =>
        let (x, pos, jumps) ← yamlValue d fuel (.index path i) depth none shape pos jumps
        yamlItems d fuel path depth lengthExpected rest pos jumps (i + 1) (x :: acc)
termination_by structural fuel

/-- A record's fields from mapping entries up to the end of the mapping. Unknown keys are
skipped with their values; a field given twice fails. -/
def yamlMembers (d : Document) (fuel : Nat) (path : Path) (depth : Nat)
    (fields : List (String × Shape × Absent)) (pos jumps : Nat) (found : List (Option Datum)) :
    Except Yaml.Failure (Datum × Nat × Nat) :=
  match fuel with
  | 0 => .error .repetitionLimit
  | fuel + 1 => do
    let (node, _) ← d.nodeAt pos
    match node with
    | .mappingEnd | .void =>
      match finishRecord fields found with
      | .ok x => return (x, pos, jumps)
      | .error m => throw (.msg m)
    | _ =>
      let (key, pos, jumps) ← keyText d path "field identifier" pos jumps fuel
      let valuePath := match node with
        | .scalar _ text _ => Path.key path text
        | _ => Path.unknown path
      match fieldIndex fields key, fields.find? (·.1 == key) with
      | some i, some (_, shape, _) =>
        if (found[i]?).join.isSome then throw (.msg (duplicateField key))
        let (x, pos, jumps) ← yamlValue d fuel valuePath depth none shape pos jumps
        yamlMembers d fuel path depth fields pos jumps (setAt found i x)
      | _, _ =>
        let pos ← skipNode d pos
        yamlMembers d fuel path depth fields pos jumps found
termination_by structural fuel

def yamlEntries (d : Document) (fuel : Nat) (path : Path) (depth : Nat) (inner : Shape)
    (pos jumps : Nat) (acc : List (String × Datum)) :
    Except Yaml.Failure (List (String × Datum) × Nat × Nat) :=
  match fuel with
  | 0 => .error .repetitionLimit
  | fuel + 1 => do
    let (node, _) ← d.nodeAt pos
    match node with
    | .mappingEnd | .void => return (acc, pos, jumps)
    | _ =>
      let (key, pos, jumps) ← keyText d path "a string" pos jumps fuel
      let valuePath := match node with
        | .scalar _ text _ => Path.key path text
        | _ => Path.unknown path
      let (x, pos, jumps) ← yamlValue d fuel valuePath depth none inner pos jumps
      yamlEntries d fuel path depth inner pos jumps (insertEntry key x acc)
termination_by structural fuel

/-- An enum: a scalar naming a unit variant, or a node whose local tag names the variant
and whose content is what the variant carries. Inside a tagged variant's content, only a
nonempty scalar naming a unit variant is read. -/
def yamlEnum (d : Document) (fuel : Nat) (path : Path) (depth : Nat)
    (tagged : Option (String × String)) (enumName : String) (variants : List Variant)
    (pos jumps : Nat) : Except Yaml.Failure (Datum × Nat × Nat) :=
  match fuel with
  | 0 => .error .repetitionLimit
  | fuel + 1 => do
    let (node, mark) ← d.nodeAt pos
    let fix (f : Yaml.Failure) : Yaml.Failure := f.placed mark path
    let names := variants.map Variant.name
    let byName (name : String) : Except Yaml.Failure Datum :=
      match variants.find? (·.name == name) with
      | none => .error (fix (.msg (unknownVariant name names)))
      | some (.unit n) => .ok (.variant n .unit)
      | some (.newtype _ _) => .error (fix (.msg (invalidType .plain .unitVariant "newtype variant")))
      | some (.tuple _ _) => .error (fix (.msg (invalidType .plain .unitVariant "tuple variant")))
      | some (.struct _ _) => .error (fix (.msg (invalidType .plain .unitVariant "struct variant")))
    let byTag (tag : String) : Except Yaml.Failure (Datum × Nat × Nat) := do
      match variants.find? (·.name == tag) with
      | none => throw (fix (.msg (unknownVariant tag names)))
      | some v =>
        let inTag := some (enumName, tag)
        let (x, p, j) ← (match v with
          | .unit _ => yamlValue d fuel path depth inTag (.unit "unit") pos jumps
          | .newtype _ inner => yamlValue d fuel path depth inTag inner pos jumps
          | .tuple n items =>
            yamlValue d fuel path depth inTag
              (.tuple s!"tuple variant {enumName}::{n}"
                s!"tuple variant {enumName}::{n} with {items.length} elements" items) pos jumps
          | .struct n fields =>
            yamlRecord d fuel path depth s!"struct variant {enumName}::{n}" fields node mark pos
              jumps).mapError fix
        return (.variant v.name x, p, j)
    match tagged with
    | some (outer, tag) =>
      match node with
      | .scalar _ text _ =>
        if text.isEmpty then throw (fix (.msg (nestedEnum outer tag)))
        else return (← byName text, pos + 1, jumps)
      | _ => throw (fix (.msg (nestedEnum outer tag)))
    | none =>
      match node with
      | .alias target =>
        let jumps ← d.jump jumps
        let (x, _, jumps) ← yamlEnum d fuel (.alias path) depth none enumName variants target jumps
        return (x, pos + 1, jumps)
      | .scalar tag text _ =>
        match localVariant tag with
        | some t => byTag t
        | none => return (← byName text, pos + 1, jumps)
      | .mappingStart tag =>
        match localVariant tag with
        | some t => byTag t
        | none => throw (fix (.msg (untaggedEnum .map)))
      | .sequenceStart tag =>
        match localVariant tag with
        | some t => byTag t
        | none => throw (fix (.msg (untaggedEnum .seq)))
      | _ => throw .endOfStream
termination_by structural fuel

end

/-- Reads YAML text against a shape: the first document, which must also be the only
one. -/
def readYaml (shape : Shape) (text : String) : Except Yaml.Failure Datum := do
  let (doc, more) := load text
  let (x, _, _) ← yamlValue doc (4 * doc.fuel) .root 128 none shape 0 0
  if let some e := doc.error then throw e
  if more then throw .moreThanOneDocument
  return x

end CapsuleFlow.Decode
