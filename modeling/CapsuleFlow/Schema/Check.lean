import CapsuleFlow.Schema.Violation
import CapsuleFlow.Schema.Scope
import CapsuleFlow.Regex.Pattern

/-!
# Checking a value against a schema

The keywords of JSON Schema draft 2020-12, each checked on its own and in the order the
keywords are written in the schema object (that is, sorted by name). A keyword that does
not apply to the kind of value at hand passes. The subschemas a keyword names are
checked at the places below it: `properties/name`, `items`, `allOf/0`, `$ref`, and so on.

A few keywords work together. `additionalProperties`, when it restricts anything, also
checks `properties` and `patternProperties` itself, member by member in the order of the
value; `items` skips the members `prefixItems` covers; `then` and `else` are checked by
`if`; `minContains` and `maxContains` are checked by `contains`, and `unevaluatedProperties`
and `unevaluatedItems` look at what the other keywords evaluated. Formats are only
annotations here and are not checked.

Numbers are compared exactly, also in the equality of values that `enum` and
`uniqueItems` use; `const` of a number allows a difference below the floating-point
epsilon. Only the keywords of the vocabularies in force are checked (see `Scope`).

Checking is bounded by a fuel argument, spent one unit per schema level.
-/

namespace CapsuleFlow.Schema

open CapsuleFlow.Json

/-! ## Numbers -/

/-- A finite float as `m · 2^e` with integers `m` and `e`. -/
def floatParts (f : Float) : Int × Int :=
  let (m, e) := f.frExp
  let scaled := (m.abs * 9007199254740992.0).toUInt64.toNat
  ((if m < 0 then -(scaled : Int) else scaled), e - 53)

/-- A number as `m · 2^e`. -/
def numberParts : Number → Int × Int
  | .int i => (i, 0)
  | .float f => floatParts f

def numberFloat : Number → Float
  | .int i => Float.ofInt i
  | .float f => f

/-- Compares `a · 2^p` with `b · 2^q`. -/
def compareParts (x y : Int × Int) : Ordering :=
  let (a, p) := x
  let (b, q) := y
  if p ≤ q then compare a (b * Int.pow 2 (q - p).toNat) else compare (a * Int.pow 2 (p - q).toNat) b

/-- Compares two numbers exactly; infinities are above and below every finite number. -/
def compareNumbers (x y : Number) : Ordering :=
  let inf (n : Number) : Option Bool := match n with
    | .float f => if f.isInf then some (f > 0) else none
    | .int _ => none
  match inf x, inf y with
  | some a, some b => if a == b then .eq else if a then .gt else .lt
  | some a, none => if a then .gt else .lt
  | none, some b => if b then .lt else .gt
  | none, none => compareParts (numberParts x) (numberParts y)

/-- Whether `a · 2^p` is an integer multiple of `b · 2^q`, `b` not zero. -/
def isMultipleParts (x y : Int × Int) : Bool :=
  let (a, p) := x
  let (b, q) := y
  if b == 0 then false
  else if p ≥ q then (a * Int.pow 2 (p - q).toNat) % b == 0 else a % (b * Int.pow 2 (q - p).toNat) == 0

/-- A finite float as its shortest decimal digits and exponent: `digits · 10^exp`. -/
def decimalParts (f : Float) : Nat × Int :=
  match f.value with
  | .finite d => if d.mant == 0 then (0, 0) else Decimal.shortestOf64 d
  | _ => (0, 0)

/-- Whether a float has no fractional part. -/
def isIntegral (f : Float) : Bool := !f.isNaN && !f.isInf && f.floor == f

/-- The most places after the point that a fractional float may have to be read as an
exact fraction: its denominator, a power of ten, must fit in 64 bits. -/
def maxFractionPlaces : Nat := 19

/-- The magnitude of a finite float as an exact fraction `(numerator, denominator)`, as
the overflow rule of `isMultipleOf` reads it: a whole float is its exact binary value; any
other float is its shortest decimal digits over a power of ten, and has no reading when
more than `maxFractionPlaces` places follow the point. -/
def exactFraction (f : Float) : Option (Nat × Nat) :=
  if isIntegral f then
    let (a, p) := floatParts f
    some (if p ≥ 0 then (a.natAbs * Nat.pow 2 p.toNat, 1) else (a.natAbs, Nat.pow 2 (-p).toNat))
  else
    let (digits, exp) := decimalParts f
    if exp ≥ 0 then some (digits * Nat.pow 10 exp.toNat, 1)
    else if (-exp).toNat > maxFractionPlaces then none
    else some (digits, Nat.pow 10 (-exp).toNat)

/-- Whether a number is a multiple of a divisor. An integral divisor needs an exact
multiple; any other divisor is judged on the fractional part of the quotient in floating
point, which must be below epsilon. When the quotient overflows, both numbers are read
as exact fractions (`exactFraction`) and their quotient must be whole; a number with no
such reading passes. -/
def isMultipleOf (x d : Number) : Bool :=
  let item := numberFloat x
  let divisor := numberFloat d
  if isIntegral divisor then
    isIntegral item && isMultipleParts (floatParts item) (floatParts divisor)
  else
    let q := item / divisor
    if q.isNaN || q.isInf then
      match exactFraction item, exactFraction divisor with
      | some (a, b), some (c, e) => c == 0 || (a * e) % (b * c) == 0
      | _, _ => true
    else
      let rem := if q ≥ 0 then q - q.floor else q - q.ceil
      rem < 2.220446049250313e-16

/-! ## Values -/

mutual

def sameValue : Value → Value → Bool
  | .null, .null => true
  | .bool a, .bool b => a == b
  | .string a, .string b => a == b
  | .number a, .number b => compareNumbers a b == .eq
  | .array xs, .array ys => sameItems xs ys
  | .object xs, .object ys => sameMembers xs ys
  | _, _ => false

def sameItems : List Value → List Value → Bool
  | [], [] => true
  | x :: xs, y :: ys => sameValue x y && sameItems xs ys
  | _, _ => false

/-- Equality of objects: the same names with equal values. -/
def sameMembers : List (String × Value) → List (String × Value) → Bool
  | [], [] => true
  | (k, x) :: xs, (l, y) :: ys => k == l && sameValue x y && sameMembers xs ys
  | _, _ => false

end

/-- Whether a value equals a constant; numbers within epsilon of each other are equal. -/
def matchesConst (c v : Value) : Bool :=
  match c, v with
  | .number a, .number b => (numberFloat a - numberFloat b).abs < 2.220446049250313e-16
  | _, _ => sameValue c v

def hasDuplicates : List Value → Bool
  | [] => false
  | x :: xs => xs.any (sameValue x) || hasDuplicates xs

/-- Whether a value has a JSON type. Integers include floats without a fractional part. -/
def hasType (v : Value) (t : String) : Bool :=
  match t, v with
  | "array", .array _ => true
  | "boolean", .bool _ => true
  | "integer", .number (.int _) => true
  | "integer", .number (.float f) => isIntegral f
  | "null", .null => true
  | "number", .number _ => true
  | "object", .object _ => true
  | "string", .string _ => true
  | _, _ => false

def wholeValue (f : Float) : Nat :=
  let (m, e) := floatParts f
  if e ≥ 0 then m.toNat * Nat.pow 2 e.toNat else m.toNat / Nat.pow 2 (-e).toNat

/-- The largest count a limit can hold: a 64-bit word. -/
def largestLimit : Nat := Nat.pow 2 64 - 1

/-- A non-negative integer keyword value, written as an integer or a whole float; a float
beyond the largest count stands for the largest count. -/
def limitOf : Value → Option Nat
  | .number (.int i) => if i ≥ 0 then some i.toNat else none
  | .number (.float f) => if isIntegral f && f ≥ 0 then some (min (wholeValue f) largestLimit) else none
  | _ => none

/-- Whether a pattern matches a text; a pattern that does not read matches nothing. -/
def patternMatches (pattern text : String) : Bool :=
  match Regex.Pattern.compile pattern with
  | .ok p => p.matches text
  | .error _ => false

/-! ## Keywords -/

/-- How a keyword checks a subschema: from a scope, the subschema and its place in the
schema, against a value and its place in the document. -/
abbrev SubCheck := Scope → Value → List String → Value → List String → List Violation

/-- The subschemas of an in-place keyword (`allOf`, `anyOf`, `oneOf`) that accept a value. -/
def acceptingBranches (sub : SubCheck) (scope : Scope) (kws : List (String × Value))
    (inst : Value) : List Value :=
  ["allOf", "anyOf", "oneOf"].flatMap fun k => match kws.lookup k with
    | some (.array schemas) => schemas.filter fun s => (sub scope s [] inst []).isEmpty
    | _ => []

/-- The subschemas a schema applies in place to a value, beside its own keywords: the
accepting branches of `allOf`, `anyOf` and `oneOf`, and of `if` the condition with
`then` when the condition holds, else `else`. Each comes with the scope inside it. -/
def inPlaceSchemas (sub : SubCheck) (scope : Scope) (kws : List (String × Value))
    (inst : Value) : List (Scope × Value) :=
  let branch (s : Value) : Scope × Value := (scope.enter s, s)
  let conditional := match kws.lookup "if" with
    | some c =>
      if (sub scope c [] inst []).isEmpty then
        c :: (kws.lookup "then").toList
      else (kws.lookup "else").toList
    | none => []
  (acceptingBranches sub scope kws inst ++ conditional).map branch

/-- The target of a schema's `$ref` or `$dynamicRef`, with the scope inside it. -/
def referenced (reg : Registry) (scope : Scope) (kws : List (String × Value)) :
    List (Scope × Value) :=
  ["$ref", "$dynamicRef"].filterMap fun k => match kws.lookup k with
    | some (.string r) =>
      (reg.resolve scope.base r).toOption.map fun (b, t) => (Scope.target reg b t, t)
    | _ => none

/-- The names of the members of an object that a schema evaluates. A member is
evaluated when `properties`, `patternProperties`, `additionalProperties` or
`unevaluatedProperties` has a subschema for it that accepts it; a reference, the
`dependentSchemas` of members present and the in-place subschemas that apply add the
members they evaluate. Only keywords of the vocabularies in force count. The schema is
given with the scope inside it; the search spends one unit of fuel per schema level. -/
def evaluatedMembers (sub : SubCheck) (reg : Registry) : Nat → Scope → Value → Value →
    List String
  | 0, _, _, _ => []
  | fuel + 1, scope, .object kws, .object members =>
    let kws := scope.keywords kws
    let accepts (s x : Value) : Bool := (sub scope s [] x []).isEmpty
    let named (k : String) : List (String × Value) := match kws.lookup k with
      | some (.object ps) => ps
      | _ => []
    let own := members.filterMap fun (key, val) =>
      let byName := match (named "properties").lookup key with
        | some s => accepts s val
        | none => false
      let byPattern := (named "patternProperties").any fun (p, s) =>
        patternMatches p key && accepts s val
      let byRest := ["additionalProperties", "unevaluatedProperties"].any fun k =>
        match kws.lookup k with
        | some s => accepts s val
        | none => false
      if byName || byPattern || byRest then some key else none
    let dependent := (named "dependentSchemas").filterMap fun (prop, s) =>
      if members.any (·.1 == prop) then some (scope.enter s, s) else none
    let further := referenced reg scope kws ++ dependent ++ inPlaceSchemas sub scope kws (.object members)
    own ++ further.flatMap fun (b, s) => evaluatedMembers sub reg fuel b s (.object members)
  | _ + 1, _, _, _ => []

/-- The positions of the items of an array that a schema evaluates. `items` evaluates
every item, `prefixItems` the items it covers, and `contains` and
`unevaluatedItems` the items they accept; a reference and the in-place subschemas that
apply add the items they evaluate. Only keywords of the vocabularies in force count.
The schema is given with the scope inside it; the search spends one unit of fuel per
schema level. -/
def evaluatedItems (sub : SubCheck) (reg : Registry) : Nat → Scope → Value → Value →
    List Nat
  | 0, _, _, _ => []
  | fuel + 1, scope, .object kws, .array xs =>
    let kws := scope.keywords kws
    let accepts (s x : Value) : Bool := (sub scope s [] x []).isEmpty
    let positions := List.range xs.length
    if (kws.lookup "items").isSome then positions
    else
      let covered := match kws.lookup "prefixItems" with
        | some (.array ps) => List.range (min ps.length xs.length)
        | _ => []
      let accepted := ["contains", "unevaluatedItems"].flatMap fun k =>
        match kws.lookup k with
        | some s => (xs.zipIdx.filter fun (x, _) => accepts s x).map (·.2)
        | none => []
      let further := referenced reg scope kws ++ inPlaceSchemas sub scope kws (.array xs)
      covered ++ accepted ++ further.flatMap fun (b, s) => evaluatedItems sub reg fuel b s (.array xs)
  | _ + 1, _, _, _ => []

def evaluationFuel : Nat := 64

/-- The violations of one keyword of a schema object, given how to check subschemas. -/
def keywordViolations (sub : SubCheck) (reg : Registry) (scope : Scope)
    (parent : List (String × Value)) (k : String) (v : Value) (spath : List String)
    (inst : Value) (ipath : List String) : List Violation :=
  let here := spath ++ [k]
  let fail (p : Problem) : List Violation := [Violation.of inst ipath here p]
  let passes (s : Value) (sp : List String) (x : Value) : Bool := (sub scope s sp x ipath).isEmpty
  let objectOf (name : String) : List (String × Value) := match parent.lookup name with
    | some (.object ps) => ps
    | _ => []
  let restricting : Bool := match parent.lookup "additionalProperties" with
    | some (.bool false) | some (.object _) => true
    | _ => false
  match k with
  | "$ref" | "$dynamicRef" =>
    match v with
    | .string r => match reg.resolve scope.base r with
      | .ok (b, target) => sub (Scope.target reg b target) target here inst ipath
      | .error _ => []
    | _ => []
  | "additionalProperties" =>
    match inst, v with
    | _, .bool true => []
    | .object members, _ =>
      let props := objectOf "properties"
      let pats := objectOf "patternProperties"
      let perMember : List (List Violation × Option String) := members.map fun (key, val) =>
        let hits := pats.filter fun (p, _) => patternMatches p key
        let viaPatterns := hits.flatMap fun (p, s) =>
          sub scope s (spath ++ ["patternProperties", p]) val (ipath ++ [key])
        match props.lookup key with
        | some s => (sub scope s (spath ++ ["properties", key]) val (ipath ++ [key]) ++ viaPatterns, none)
        | none =>
          if !hits.isEmpty then (viaPatterns, none)
          else match v with
            | .bool false => ([], some key)
            | _ => (sub scope v here val (ipath ++ [key]), none)
      let unexpected := perMember.filterMap (·.2)
      perMember.flatMap (·.1) ++
        (if unexpected.isEmpty then [] else fail (.additionalProperties unexpected))
    | _, _ => []
  | "properties" =>
    match v, inst with
    | .object ps, .object members =>
      if restricting then []
      else ps.flatMap fun (name, s) => match members.lookup name with
        | some val => sub scope s (here ++ [name]) val (ipath ++ [name])
        | none => []
    | _, _ => []
  | "patternProperties" =>
    match v, inst with
    | .object ps, .object members =>
      if restricting then []
      else ps.flatMap fun (p, s) =>
        (members.filter fun (key, _) => patternMatches p key).flatMap fun (key, val) =>
          sub scope s (here ++ [p]) val (ipath ++ [key])
    | _, _ => []
  | "required" =>
    match v, inst with
    | .array names, .object members =>
      (names.filterMap Value.str?).filterMap fun n =>
        if members.any (·.1 == n) then none else some (Violation.of inst ipath here (.required n))
    | _, _ => []
  | "dependentRequired" =>
    match v, inst with
    | .object deps, .object members =>
      deps.flatMap fun (prop, names) =>
        if !members.any (·.1 == prop) then []
        else match names with
          | .array ns => (ns.filterMap Value.str?).filterMap fun n =>
              if members.any (·.1 == n) then none
              else some (Violation.of inst ipath (here ++ [prop]) (.required n))
          | _ => []
    | _, _ => []
  | "dependencies" =>
    match v, inst with
    | .object deps, .object members =>
      deps.flatMap fun (prop, dep) =>
        if !members.any (·.1 == prop) then []
        else match dep with
          | .array ns => (ns.filterMap Value.str?).filterMap fun n =>
              if members.any (·.1 == n) then none else some (Violation.of inst ipath here (.required n))
          | s => sub scope s (here ++ [prop]) inst ipath
    | _, _ => []
  | "dependentSchemas" =>
    match v, inst with
    | .object deps, .object members =>
      deps.flatMap fun (prop, s) =>
        if members.any (·.1 == prop) then sub scope s (here ++ [prop]) inst ipath else []
    | _, _ => []
  | "propertyNames" =>
    match inst with
    | .object members => members.flatMap fun (key, _) => sub scope v here (.string key) ipath
    | _ => []
  | "minProperties" =>
    match limitOf v, inst with
    | some n, .object members => if members.length < n then fail (.minProperties n) else []
    | _, _ => []
  | "maxProperties" =>
    match limitOf v, inst with
    | some n, .object members => if members.length > n then fail (.maxProperties n) else []
    | _, _ => []
  | "type" =>
    let names := match v with
      | .string t => [t]
      | .array ts => ts.filterMap Value.str?
      | _ => []
    if names.any (hasType inst) then []
    else match v with
      | .string t | .array [.string t] => fail (.typeOne t)
      | _ => fail (.typeMany (typeNames.filter names.contains))
  | "const" => if matchesConst v inst then [] else fail (.const v)
  | "enum" =>
    match v with
    | .array options => if options.any (sameValue · inst) then [] else fail (.enum v)
    | _ => []
  | "minLength" =>
    match limitOf v, inst with
    | some n, .string s => if s.length < n then fail (.minLength n) else []
    | _, _ => []
  | "maxLength" =>
    match limitOf v, inst with
    | some n, .string s => if s.length > n then fail (.maxLength n) else []
    | _, _ => []
  | "pattern" =>
    match v, inst with
    | .string p, .string s => if patternMatches p s then [] else fail (.pattern p)
    | _, _ => []
  | "minimum" =>
    match v, inst with
    | .number l, .number x => if compareNumbers x l == .lt then fail (.minimum v) else []
    | _, _ => []
  | "maximum" =>
    match v, inst with
    | .number l, .number x => if compareNumbers x l == .gt then fail (.maximum v) else []
    | _, _ => []
  | "exclusiveMinimum" =>
    match v, inst with
    | .number l, .number x => if compareNumbers x l != .gt then fail (.exclusiveMinimum v) else []
    | _, _ => []
  | "exclusiveMaximum" =>
    match v, inst with
    | .number l, .number x => if compareNumbers x l != .lt then fail (.exclusiveMaximum v) else []
    | _, _ => []
  | "multipleOf" =>
    match v, inst with
    | .number d, .number x => if isMultipleOf x d then [] else fail (.multipleOf (numberFloat d))
    | _, _ => []
  | "minItems" =>
    match limitOf v, inst with
    | some n, .array xs => if xs.length < n then fail (.minItems n) else []
    | _, _ => []
  | "maxItems" =>
    match limitOf v, inst with
    | some n, .array xs => if xs.length > n then fail (.maxItems n) else []
    | _, _ => []
  | "uniqueItems" =>
    match v, inst with
    | .bool true, .array xs => if hasDuplicates xs then fail .uniqueItems else []
    | _, _ => []
  | "prefixItems" =>
    match v, inst with
    | .array schemas, .array xs =>
      ((schemas.zip xs).zipIdx).flatMap fun ((s, x), i) =>
        sub scope s (here ++ [toString i]) x (ipath ++ [toString i])
    | _, _ => []
  | "items" =>
    match v, inst with
    | .bool true, _ => []
    | .array schemas, .array xs =>
      ((schemas.zip xs).zipIdx).flatMap fun ((s, x), i) =>
        sub scope s (here ++ [toString i]) x (ipath ++ [toString i])
    | _, .array xs =>
      let skip := match parent.lookup "prefixItems" with
        | some (.array ps) => ps.length
        | _ => 0
      (xs.zipIdx.drop skip).flatMap fun (x, i) => sub scope v here x (ipath ++ [toString i])
    | _, _ => []
  | "additionalItems" =>
    match parent.lookup "items", inst with
    | some (.array schemas), .array xs =>
      match v with
      | .bool false =>
        if xs.length > schemas.length then fail (.additionalItems (xs.drop schemas.length)) else []
      | _ => (xs.zipIdx.drop schemas.length).flatMap fun (x, i) =>
        sub scope v here x (ipath ++ [toString i])
    | _, _ => []
  | "contains" =>
    match inst with
    | .array xs =>
      let count := (xs.filter fun x => passes v here x).length
      let bound (name : String) : List Violation :=
        [Violation.of inst ipath (spath ++ [name]) .contains]
      match (parent.lookup "minContains").bind limitOf, (parent.lookup "maxContains").bind limitOf with
      | none, none => if count == 0 then fail .contains else []
      | some least, none => if count < least then bound "minContains" else []
      | none, some most => if count > most || count == 0 then bound "maxContains" else []
      | some least, some most =>
        if count > most then bound "maxContains"
        else if count < least then bound "minContains" else []
    | _ => []
  | "unevaluatedProperties" =>
    match inst with
    | .object members =>
      let seen := evaluatedMembers sub reg evaluationFuel scope (.object parent) inst
      let unexpected := (members.map (·.1)).filter fun key => !seen.contains key
      if unexpected.isEmpty then [] else fail (.unevaluatedProperties unexpected)
    | _ => []
  | "unevaluatedItems" =>
    match inst with
    | .array xs =>
      let seen := evaluatedItems sub reg evaluationFuel scope (.object parent) inst
      let unexpected := (xs.zipIdx.filter fun (_, i) => !seen.contains i).map (·.1)
      if unexpected.isEmpty then [] else fail (.unevaluatedItems unexpected)
    | _ => []
  | "allOf" =>
    match v with
    | .array schemas => schemas.zipIdx.flatMap fun (s, i) => sub scope s (here ++ [toString i]) inst ipath
    | _ => []
  | "anyOf" =>
    match v with
    | .array schemas =>
      if schemas.zipIdx.any fun (s, i) => passes s (here ++ [toString i]) inst then [] else fail .anyOf
    | _ => []
  | "oneOf" =>
    match v with
    | .array schemas =>
      let n := (schemas.zipIdx.filter fun (s, i) => passes s (here ++ [toString i]) inst).length
      if n == 0 then fail .oneOfNone else if n > 1 then fail .oneOfMany else []
    | _ => []
  | "not" => if passes v here inst then fail (.not v) else []
  | "if" =>
    if passes v here inst then
      match parent.lookup "then" with
      | some s => sub scope s (spath ++ ["then"]) inst ipath
      | none => []
    else
      match parent.lookup "else" with
      | some s => sub scope s (spath ++ ["else"]) inst ipath
      | none => []
  | _ => []

/-- The violations of a value against a schema, from a scope and with places in the
schema and the document. -/
def violations (reg : Registry) : Nat → SubCheck
  | 0 => fun _ _ _ _ _ => []
  | fuel + 1 => fun scope schema spath inst ipath =>
    match schema with
    | .bool false => [Violation.of inst ipath spath .falseSchema]
    | .object kws =>
      let scope := scope.enter schema
      (scope.keywords kws).flatMap fun (k, v) =>
        keywordViolations (violations reg fuel) reg scope kws k v spath inst ipath
    | _ => []

/-- The fuel checking starts with: enough for any schema and document nested less than
a few hundred levels. -/
def checkFuel : Nat := 1024

end CapsuleFlow.Schema
