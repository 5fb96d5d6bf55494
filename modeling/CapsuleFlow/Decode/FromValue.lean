import CapsuleFlow.Decode.Shape
import CapsuleFlow.Numeric.Read
import CapsuleFlow.Text.Space

/-!
# Reading typed data from a JSON value

A JSON value read against a shape. Objects are read in key order; a record takes its
fields from an object (ignoring unknown keys) or from an array, in declaration order,
which must not have more elements than the record has fields. Messages carry no
position.

The reading spends one unit of fuel per step and is given more than the number of
nodes of the value times the nesting of the shape.
-/

namespace CapsuleFlow.Decode

open CapsuleFlow.Json

def Unexpected.ofValue : Value → Unexpected
  | .null => .unit
  | .bool b => .bool b
  | .number (.int i) => if i ≥ 0 then .unsigned i.toNat else .signed i
  | .number (.float x) => .float x
  | .string s => .str s
  | .array _ => .seq
  | .object _ => .map

def wrongValue (v : Value) (expected : String) : String :=
  invalidType .json (Unexpected.ofValue v) expected

def singleOfInt (i : Int) : Float32 :=
  Numeral.toFloat32 (.finite (i < 0) i.natAbs 0)

def unsignedDatum (name : String) (max : Nat) (i : Int) : Except String Datum :=
  if i < 0 then .error (invalidValue .json (.signed i) name)
  else if i.toNat ≤ max then .ok (.int i)
  else .error (invalidValue .json (.unsigned i.toNat) name)

def signedDatum (name : String) (min max : Int) (i : Int) : Except String Datum :=
  if min ≤ i && i ≤ max then .ok (.int i)
  else if i ≥ 0 then .error (invalidValue .json (.unsigned i.toNat) name)
  else .error (invalidValue .json (.signed i) name)

/-- A float given as text: a numeral, white space around it allowed. A binary32 value
is the binary64 reading narrowed, rounded twice as a reading through a double is. -/
def numeralDatum (single : Bool) (s : String) : Except String Datum :=
  match Numeral.read? (Text.trim s) with
  | some n => .ok (if single then .single n.toFloat.toFloat32 else .float n.toFloat)
  | none => .error (invalidValue .json (.str s) "a float or a numeral string")

def tooDeep : String := "value nested too deeply"

def valueSize : Value → Nat
  | .array xs => xs.attach.foldl (fun n ⟨x, _⟩ => n + valueSize x) 1
  | .object ms => ms.attach.foldl (fun n ⟨(_, x), _⟩ => n + valueSize x) 1
  | _ => 1
decreasing_by
  all_goals simp_wf
  · have := List.sizeOf_lt_of_mem ‹x ∈ xs›
    omega
  · have := List.sizeOf_lt_of_mem ‹(_, x) ∈ ms›
    simp at this
    omega

mutual

def fromValue (fuel : Nat) (shape : Shape) (v : Value) : Except String Datum :=
  match fuel with
  | 0 => .error tooDeep
  | fuel + 1 =>
    let wrong : Except String Datum := .error (wrongValue v shape.expected)
    match shape with
    | .any => .ok (.json v)
    | .bool =>
      match v with
      | .bool b => .ok (.bool b)
      | _ => wrong
    | .unsigned name max =>
      match v with
      | .number (.int i) => unsignedDatum name max i
      | _ => wrong
    | .signed name min max =>
      match v with
      | .number (.int i) => signedDatum name min max i
      | _ => wrong
    | .f64 =>
      match v with
      | .number (.int i) => .ok (.float (Float.ofInt i))
      | .number (.float x) => .ok (.float x)
      | _ => wrong
    | .f32 =>
      match v with
      | .number (.int i) => .ok (.single (singleOfInt i))
      | .number (.float x) => .ok (.single x.narrow)
      | _ => wrong
    | .numeral single =>
      match v with
      | .number (.int i) =>
        .ok (if single then .single (Float.ofInt i).toFloat32 else .float (Float.ofInt i))
      | .number (.float x) => .ok (if single then .single x.narrow else .float x)
      | .string s => numeralDatum single s
      | _ => wrong
    | .string _ =>
      match v with
      | .string s => .ok (.str s)
      | _ => wrong
    | .char =>
      match v with
      | .string s =>
        match s.toList with
        | [c] => .ok (.char c)
        | _ => .error (invalidValue .json (.str s) "a character")
      | _ => wrong
    | .option inner =>
      match v with
      | .null => .ok .none
      | v => (fromValue fuel inner v).map .some
    | .seq inner =>
      match v with
      | .array xs => (xs.mapM (fromValue fuel inner)).map .seq
      | _ => wrong
    | .tuple _ lengthExpected items =>
      match v with
      | .array xs => (itemsFromValues fuel lengthExpected items xs).map .seq
      | _ => wrong
    | .newtype inner => fromValue fuel inner v
    | .unit _ =>
      match v with
      | .null => .ok .unit
      | _ => wrong
    | .record name fields =>
      match v with
      | .object ms => recordFromMembers fuel fields ms
      | .array xs =>
        recordFromValues fuel s!"struct {name} with {fields.length} elements" fields xs
      | _ => wrong
    | .enum name variants => enumFromValue fuel name variants v
    | .map inner =>
      match v with
      | .object ms =>
        (ms.mapM fun ((k, x) : String × Value) => (fromValue fuel inner x).map (k, ·)).map .map
      | _ => wrong
    | .checked inner check => fromValue fuel inner v >>= check
termination_by structural fuel

/-- Tuple elements from an array: a missing element fails with `lengthExpected`, extra
elements fail once all were read. -/
def itemsFromValues (fuel : Nat) (lengthExpected : String) (items : List Shape)
    (xs : List Value) : Except String (List Datum) :=
  match fuel with
  | 0 => .error tooDeep
  | fuel + 1 => do
    let ds ← (items.zipIdx).mapM fun (shape, i) =>
      match xs[i]? with
      | some x => fromValue fuel shape x
      | none => .error (invalidLength i lengthExpected)
    if xs.length > items.length then
      throw (invalidLength xs.length "fewer elements in array")
    return ds
termination_by structural fuel

def recordFromValues (fuel : Nat) (lengthExpected : String)
    (fields : List (String × Shape × Absent)) (xs : List Value) : Except String Datum :=
  match fuel with
  | 0 => .error tooDeep
  | fuel + 1 => do
    let ds ← (fields.zipIdx).mapM fun ((name, shape, absent), i) =>
      match xs[i]? with
      | some x => (fromValue fuel shape x).map (name, ·)
      | none =>
        match absent with
        | .default d => .ok (name, d)
        | _ => .error (invalidLength i lengthExpected)
    if xs.length > fields.length then
      throw (invalidLength xs.length "fewer elements in array")
    return .record ds
termination_by structural fuel

/-- A record from object members, in key order; unknown keys are ignored. -/
def recordFromMembers (fuel : Nat) (fields : List (String × Shape × Absent))
    (ms : List (String × Value)) : Except String Datum :=
  match fuel with
  | 0 => .error tooDeep
  | fuel + 1 => do
    let found ← ms.foldlM (fun found ((k, x) : String × Value) =>
      match fieldIndex fields k, fields.find? (·.1 == k) with
      | some i, some (_, shape, _) => (fromValue fuel shape x).map (setAt found i)
      | _, _ => .ok found) (fields.map fun _ => none)
    finishRecord fields found
termination_by structural fuel

/-- An enum from a variant name, or a one-key object from the name to the payload. -/
def enumFromValue (fuel : Nat) (enumName : String) (variants : List Variant) (v : Value) :
    Except String Datum :=
  match fuel with
  | 0 => .error tooDeep
  | fuel + 1 => do
    let (tag, payload) ← match v with
      | .object [(k, p)] => pure (k, some p)
      | .object _ => throw (invalidValue .json .map "map with a single key")
      | .string s => pure (s, none)
      | other => throw (wrongValue other "string or map")
    match variants.find? (·.name == tag) with
    | none => throw (unknownVariant tag (variants.map Variant.name))
    | some (.unit n) =>
      match payload with
      | none | some .null => return .variant n .unit
      | some p => throw (wrongValue p "unit")
    | some (.newtype n inner) =>
      match payload with
      | none => throw (invalidType .json .unitVariant "newtype variant")
      | some p => return .variant n (← fromValue fuel inner p)
    | some (.tuple n items) =>
      match payload with
      | none => throw (invalidType .json .unitVariant "tuple variant")
      | some (.array []) => throw (invalidType .json .unit s!"tuple variant {enumName}::{n}")
      | some (.array xs) =>
        return .variant n (.seq (← itemsFromValues fuel
          s!"tuple variant {enumName}::{n} with {items.length} elements" items xs))
      | some p => throw (wrongValue p "tuple variant")
    | some (.struct n fields) =>
      match payload with
      | none => throw (invalidType .json .unitVariant "struct variant")
      | some (.object ms) => return .variant n (← recordFromMembers fuel fields ms)
      | some p => throw (wrongValue p "struct variant")

termination_by structural fuel
end

def readValue (shape : Shape) (v : Value) : Except String Datum :=
  fromValue (16 * valueSize v + 64) shape v

end CapsuleFlow.Decode
