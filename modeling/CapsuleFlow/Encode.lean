import CapsuleFlow.Canonical
import CapsuleFlow.Decode.Shape

/-!
# Canonical text of typed data

Typed data reaches canonical form in three passes. A first walk, in the order the data
is written out, stops at the first float that is NaN or infinite, or at the first part
that cannot be written at all; single-precision floats are widened first. Only then is
the data turned into a JSON value, where a map whose keys are not text fails with
`key must be a string`. The value is then made canonical.

The first walk is what keeps non-finite floats from silently becoming `null`, which is
what the JSON value would otherwise hold for them.
-/

namespace CapsuleFlow

open CapsuleFlow.Json

/-- Typed data as it is written out. Single-precision floats are held widened. -/
inductive Serial where
  | null
  | bool (b : Bool)
  | int (i : Int)
  | float (x : Float)
  | str (s : String)
  | seq (items : List Serial)
  /-- A map, with keys of any kind. -/
  | map (entries : List (Serial × Serial))
  /-- A record with named fields in declaration order. -/
  | record (fields : List (String × Serial))
  /-- A part whose writing fails with a message. -/
  | fault (message : String)
  deriving Inhabited

mutual

/-- The first non-finite float or failing part, in writing order. -/
def Serial.firstFault : Serial → Option CanonError
  | .float x => if x.isNaN || x.isInf then some (.nonFinite x) else none
  | .fault m => some (.unsupported m)
  | .seq items => Serial.firstFaultItems items
  | .map entries => Serial.firstFaultEntries entries
  | .record fields => Serial.firstFaultFields fields
  | _ => none

/-- The first fault in a list. -/
def Serial.firstFaultItems : List Serial → Option CanonError
  | [] => none
  | s :: rest => (Serial.firstFault s).orElse fun _ => Serial.firstFaultItems rest

/-- The first fault in map entries, each key before its value. -/
def Serial.firstFaultEntries : List (Serial × Serial) → Option CanonError
  | [] => none
  | (k, v) :: rest =>
    ((Serial.firstFault k).orElse fun _ => Serial.firstFault v).orElse fun _ =>
      Serial.firstFaultEntries rest

/-- The first fault in record fields. -/
def Serial.firstFaultFields : List (String × Serial) → Option CanonError
  | [] => none
  | (_, v) :: rest => (Serial.firstFault v).orElse fun _ => Serial.firstFaultFields rest

end

/-- The message of a map key that is not text. -/
def keyMustBeString : String := "key must be a string"

mutual

/-- The JSON value of typed data. Map keys must be text or integers, which are written
as their decimal text. -/
def Serial.toValue : Serial → Except String Value
  | .null => .ok .null
  | .bool b => .ok (.bool b)
  | .int i => .ok (.number (.int i))
  | .float x => .ok (.number (.float x))
  | .str s => .ok (.string s)
  | .seq items => return .array (← Serial.itemsToValue items)
  | .map entries => return Value.obj (← Serial.entriesToValue entries)
  | .record fields => return Value.obj (← Serial.fieldsToValue fields)
  | .fault m => .error m

def Serial.itemsToValue : List Serial → Except String (List Value)
  | [] => .ok []
  | s :: rest => return (← Serial.toValue s) :: (← Serial.itemsToValue rest)

def Serial.entriesToValue : List (Serial × Serial) → Except String (List (String × Value))
  | [] => .ok []
  | (k, v) :: rest => do
    let key ← match k with
      | .str s => pure s
      | .int i => pure (toString i)
      | _ => throw keyMustBeString
    return (key, ← Serial.toValue v) :: (← Serial.entriesToValue rest)

def Serial.fieldsToValue : List (String × Serial) → Except String (List (String × Value))
  | [] => .ok []
  | (k, v) :: rest => return (k, ← Serial.toValue v) :: (← Serial.fieldsToValue rest)

end

mutual

def Serial.ofValue : Value → Serial
  | .null => .null
  | .bool b => .bool b
  | .number (.int i) => .int i
  | .number (.float x) => .float x
  | .string s => .str s
  | .array xs => .seq (Serial.ofItems xs)
  | .object ms => .map (Serial.ofMembers ms)

def Serial.ofItems : List Value → List Serial
  | [] => []
  | x :: xs => Serial.ofValue x :: Serial.ofItems xs

def Serial.ofMembers : List (String × Value) → List (Serial × Serial)
  | [] => []
  | (k, v) :: ms => (.str k, Serial.ofValue v) :: Serial.ofMembers ms

end

mutual

/-- Typed data of a datum: options as their content or null, unit as null, characters
as one-character text, enum variants tagged from outside (a bare name for a variant
that carries nothing, else a one-member record from the name to the payload). -/
def Serial.ofDatum : Decode.Datum → Serial
  | .unit | .none => .null
  | .bool b => .bool b
  | .int i => .int i
  | .float x => .float x
  | .single x => .float x.toFloat
  | .str s => .str s
  | .char c => .str c.toString
  | .some d => Serial.ofDatum d
  | .seq items => .seq (Serial.ofData items)
  | .record fields => .record (Serial.ofFields fields)
  | .variant n .unit => .str n
  | .variant n d => .record [(n, Serial.ofDatum d)]
  | .map entries => .map ((Serial.ofFields entries).map fun (k, v) => (.str k, v))
  | .json v => Serial.ofValue v

def Serial.ofData : List Decode.Datum → List Serial
  | [] => []
  | d :: ds => Serial.ofDatum d :: Serial.ofData ds

def Serial.ofFields : List (String × Decode.Datum) → List (String × Serial)
  | [] => []
  | (k, d) :: rest => (k, Serial.ofDatum d) :: Serial.ofFields rest

end

/-- The canonical text of typed data: the first fault if any, else the canonical text of
its JSON value. -/
def canonicalSerial (o : CanonicalOptions) (s : Serial) : Except CanonError String :=
  match s.firstFault with
  | some e => .error e
  | none =>
    match s.toValue with
    | .error m => .error (.unsupported m)
    | .ok v => canonicalize o v

end CapsuleFlow
