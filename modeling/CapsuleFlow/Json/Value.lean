/-!
# JSON values

A JSON number is an integer in the 64-bit range (signed below zero, unsigned above) or a
finite binary64 float; the two are different numbers even when equal in value. Objects
keep their members sorted by key in code-point order with each key once; `insert`
replaces the value of a key already present, so building an object from members in
source order keeps the last value of a repeated key.
-/

namespace CapsuleFlow.Json

/-- A JSON number. -/
inductive Number where
  | int (i : Int)
  | float (f : Float)
  deriving DecidableEq, Inhabited, Repr

/-- A JSON value. -/
inductive Value where
  | null
  | bool (b : Bool)
  | number (n : Number)
  | string (s : String)
  | array (items : List Value)
  | object (members : List (String × Value))
  deriving Inhabited, Repr

namespace Value

mutual
/-- Structural equality: same kind, equal parts, members in the same order. -/
def beq : Value → Value → Bool
  | .null, .null => true
  | .bool a, .bool b => a == b
  | .number a, .number b => a == b
  | .string a, .string b => a == b
  | .array xs, .array ys => beqItems xs ys
  | .object xs, .object ys => beqMembers xs ys
  | _, _ => false

def beqItems : List Value → List Value → Bool
  | [], [] => true
  | x :: xs, y :: ys => beq x y && beqItems xs ys
  | _, _ => false

def beqMembers : List (String × Value) → List (String × Value) → Bool
  | [], [] => true
  | (k, x) :: xs, (l, y) :: ys => k == l && beq x y && beqMembers xs ys
  | _, _ => false
end

instance : BEq Value := ⟨beq⟩

/-- Insert a keyed entry into a list sorted by key, replacing the entry of an equal key. -/
def insertKeyed {β : Type} (k : String) (v : β) : List (String × β) → List (String × β)
  | [] => [(k, v)]
  | (k', v') :: rest =>
    if k < k' then (k, v) :: (k', v') :: rest
    else if k == k' then (k, v) :: rest
    else (k', v') :: insertKeyed k v rest

/-- Of a list sorted by key, the last entry of each key. -/
def lastOfEach {β : Type} : List (String × β) → List (String × β)
  | [] => []
  | [e] => [e]
  | e :: tail@(f :: _) => if e.1 == f.1 then lastOfEach tail else e :: lastOfEach tail

/-- The list sorted by key holding the entries in order, a later key replacing an
earlier equal one. The sort is stable, so the entries of one key stay in their order
and the last of them is kept; the result is what inserting the entries one by one with
`insertKeyed` gives. -/
def keyedOf {β : Type} (ms : List (String × β)) : List (String × β) :=
  lastOfEach (ms.mergeSort fun a b => decide (a.1 ≤ b.1))

/-- The sorted member list holding the members in order, a later key replacing an
earlier equal one. -/
def membersOf (ms : List (String × Value)) : List (String × Value) := keyedOf ms

def obj (ms : List (String × Value)) : Value := .object (membersOf ms)

def lookup (k : String) : List (String × Value) → Option Value
  | [] => none
  | (k', v) :: rest => if k == k' then some v else lookup k rest

def get? (v : Value) (k : String) : Option Value :=
  match v with
  | .object ms => lookup k ms
  | _ => none

def str? : Value → Option String
  | .string s => some s
  | _ => none

def isObject : Value → Bool
  | .object _ => true
  | _ => false

/-- The name of the value's kind: `null`, `boolean`, `number`, `string`, `array` or `object`. -/
def kindName : Value → String
  | .null => "null"
  | .bool _ => "boolean"
  | .number _ => "number"
  | .string _ => "string"
  | .array _ => "array"
  | .object _ => "object"

def nat (n : Nat) : Value := .number (.int n)

/-- An optional string, `null` when absent. -/
def optString : Option String → Value
  | some s => .string s
  | none => .null

/-- Read an array index of a pointer token: decimal digits, no sign, no leading zero. -/
def pointerIndex? (t : String) : Option Nat :=
  match t.toList with
  | [] => none
  | '0' :: _ :: _ => none
  | cs => if cs.all Char.isDigit then some (cs.foldl (fun n c => n * 10 + (c.toNat - 48)) 0) else none

/-- Undo the `~1` (slash) and `~0` (tilde) escapes of pointer token characters, in one
pass from the left. Neither escape can overlap itself or the other, so this is replacing
every `~1` and then every `~0`. -/
def unescapeChars : List Char → List Char
  | '~' :: '1' :: rest => '/' :: unescapeChars rest
  | '~' :: '0' :: rest => '~' :: unescapeChars rest
  | c :: rest => c :: unescapeChars rest
  | [] => []

/-- Undo the `~1` (slash) and `~0` (tilde) escapes of a pointer token. -/
def unescapeToken (t : String) : String := String.ofList (unescapeChars t.toList)

/-- Follow a JSON pointer (`""` is the whole value, else `/`-separated tokens). -/
def pointer (v : Value) (p : String) : Option Value :=
  if p.isEmpty then some v
  else if !p.startsWith "/" then none
  else
    let tokens := ((p.drop 1).toString.splitOn "/").map unescapeToken
    tokens.foldl (fun acc t => acc.bind fun cur =>
      match cur with
      | .object ms => lookup t ms
      | .array xs => (pointerIndex? t).bind fun i => xs[i]?
      | _ => none) (some v)

end Value

end CapsuleFlow.Json
