import CapsuleFlow.Text.PropertyData
import CapsuleFlow.Text.Normal

/-!
# Character properties

The Unicode properties a pattern can test a character for: its general category, its
script, a binary property, the version that assigned it (`Age`, which holds for the
characters of that version and every earlier one), or one of the special classes `Any`,
`ASCII` and `Assigned`.
Names are matched loosely, as Unicode recommends for symbolic names: letter case,
spaces, underscores and hyphens do not count, nor does a leading `is`.

Case-insensitive matching compares characters by simple case folding: two characters
match when they fold to the same character.
-/

namespace CapsuleFlow.Text

/-- Ranges `first-last` as `(first, last)`. -/
def readRanges (s : String) : Array (Nat × Nat) :=
  ((s.splitOn ";").map fun e =>
    match e.splitOn "-" with
    | [a, b] => (hexNat a, hexNat b)
    | _ => (0, 0)).toArray

/-- Ranges `first-last:value` as `(first, last, value)`. -/
def readValueRanges (s : String) : Array (Nat × Nat × String) :=
  ((s.splitOn ";").map fun e =>
    match e.splitOn ":" with
    | [r, v] => match r.splitOn "-" with
      | [a, b] => (hexNat a, hexNat b, v)
      | _ => (0, 0, "")
    | _ => (0, 0, "")).toArray

def inRanges (t : Array (Nat × Nat)) (c : Char) : Bool :=
  match lastAtMost t (·.1) c.toNat with
  | some (_, last) => c.toNat ≤ last
  | none => false

def valueAt (t : Array (Nat × Nat × String)) (c : Char) : Option String :=
  match lastAtMost t (·.1) c.toNat with
  | some (_, last, v) => if c.toNat ≤ last then some v else none
  | none => none

def categoryTable : Array (Nat × Nat × String) := readValueRanges categoryRanges

def scriptTable : Array (Nat × Nat × String) := readValueRanges scriptRanges

def wordTable : Array (Nat × Nat) := readRanges wordRanges

def binaryTables : List (String × Array (Nat × Nat)) :=
  binaryPropertyRanges.map fun (n, s) => (n, readRanges s)

/-- The two-letter general category of a character, `Cn` when it is unassigned. -/
def generalCategory (c : Char) : String := (valueAt categoryTable c).getD "Cn"

/-- The four-letter code of a character's script, `Zzzz` when it has none. -/
def scriptOf (c : Char) : String := (valueAt scriptTable c).getD "Zzzz"

def ageTable : Array (Nat × Nat × String) := readValueRanges ageRanges

/-- A version `Major.Minor` as a pair of numbers. -/
def versionOf (v : String) : Nat × Nat :=
  match v.splitOn "." with
  | [a, b] => (a.toNat?.getD 0, b.toNat?.getD 0)
  | _ => (0, 0)

def ageOf (c : Char) : Option (Nat × Nat) := (valueAt ageTable c).map versionOf

/-- The versions that assigned characters, each once, in the order the table first
names them. -/
def ageVersions : List (Nat × Nat) :=
  (ageTable.toList.map fun (_, _, v) => versionOf v).eraseDups

def isWordCharacter (c : Char) : Bool := inRanges wordTable c

def isWhiteSpace (c : Char) : Bool :=
  let n := c.toNat
  (9 ≤ n && n ≤ 13) || n == 32 || n == 0x85 || n == 0xA0 || n == 0x1680 ||
    (0x2000 ≤ n && n ≤ 0x200A) || n == 0x2028 || n == 0x2029 || n == 0x202F ||
    n == 0x205F || n == 0x3000

/-! ## Case folding -/

/-- Characters with their simple case folding, sorted by character. -/
def foldTable : Array (Nat × Nat) :=
  ((simpleFolds.splitOn ";").map fun e =>
    match e.splitOn ":" with
    | [a, b] => (hexNat a, hexNat b)
    | _ => (0, 0)).toArray

/-- Runs of pairs `(fold, char)` sorted by fold, grouped by fold. -/
def groupByFold : List (Nat × Nat) → List (Nat × List Nat)
  | [] => []
  | (f, c) :: rest =>
    match groupByFold rest with
    | (g, cs) :: more => if g == f then (f, c :: cs) :: more else (f, [c]) :: (g, cs) :: more
    | [] => [(f, [c])]

def unfoldTable : Array (Nat × List Nat) :=
  (groupByFold ((foldTable.toList.map fun (a, b) => (b, a)).mergeSort fun x y => x.1 ≤ y.1)).toArray

/-- The simple case folding of a character. -/
def simpleFold (c : Char) : Char :=
  match lastAtMost foldTable (·.1) c.toNat with
  | some (k, f) => if k == c.toNat then Char.ofNat f else c
  | none => c

def unfolded (f : Char) : List Char :=
  match lastAtMost unfoldTable (·.1) f.toNat with
  | some (k, cs) => if k == f.toNat then cs.map Char.ofNat else []
  | none => []

/-- The characters equal to `c` under simple case folding, `c` first. -/
def caseVariants (c : Char) : List Char :=
  let f := simpleFold c
  c :: ((f :: unfolded f).filter (· != c)).eraseDups

/-! ## Properties by name -/

/-- A property a pattern can test a character for. -/
inductive Property where
  /-- Every character. -/
  | any
  /-- The ASCII characters. -/
  | ascii
  /-- The characters with a general category other than `Cn`. -/
  | assigned
  /-- The characters of some general categories, by two-letter name. -/
  | category (names : List String)
  /-- The characters of a script, by four-letter code. -/
  | script (code : String)
  /-- A binary property, by its name in `binaryPropertyRanges`. -/
  | binary (name : String)
  /-- The characters assigned in a version of Unicode or before it. -/
  | age (major minor : Nat)
  deriving DecidableEq, Repr, Inhabited

def Property.holds (p : Property) (c : Char) : Bool :=
  match p with
  | .any => true
  | .ascii => c.toNat < 128
  | .assigned => generalCategory c != "Cn"
  | .category names => names.contains (generalCategory c)
  | .script code => scriptOf c == code
  | .binary name => match binaryTables.lookup name with
    | some t => inRanges t c
    | none => false
  | .age major minor => match ageOf c with
    | some (a, b) => a < major || (a == major && b ≤ minor)
    | none => false

/-- A symbolic name as it is compared: ASCII only, lowercase, without spaces,
underscores and hyphens, and without a leading `is`. -/
def looseName (s : String) : String :=
  let cs := s.toList
  let cs := match cs with
    | a :: b :: rest => if a.toLower == 'i' && b.toLower == 's' then rest else cs
    | _ => cs
  let kept := (cs.filter fun c => c.toNat < 128 && c != ' ' && c != '_' && c != '-').map Char.toLower
  match kept with
  | ['c'] => if cs.length < s.length then "isc" else "c"
  | _ => String.ofList kept

/-- The general categories, each with the names it goes by and the two-letter
categories it covers. -/
def categoryAliases : List (List String × List String) :=
  [ (["cc", "control", "cntrl"], ["Cc"]), (["cf", "format"], ["Cf"]),
    (["cn", "unassigned"], ["Cn"]), (["co", "privateuse"], ["Co"]),
    (["cs", "surrogate"], ["Cs"]), (["c", "other"], ["Cc", "Cf", "Cn", "Co", "Cs"]),
    (["lc", "casedletter", "l&"], ["Ll", "Lt", "Lu"]), (["ll", "lowercaseletter"], ["Ll"]),
    (["lm", "modifierletter"], ["Lm"]), (["lo", "otherletter"], ["Lo"]),
    (["lt", "titlecaseletter"], ["Lt"]), (["lu", "uppercaseletter"], ["Lu"]),
    (["l", "letter"], ["Ll", "Lm", "Lo", "Lt", "Lu"]),
    (["mc", "spacingmark"], ["Mc"]), (["me", "enclosingmark"], ["Me"]),
    (["mn", "nonspacingmark"], ["Mn"]), (["m", "mark", "combiningmark"], ["Mc", "Me", "Mn"]),
    (["nd", "decimalnumber", "digit"], ["Nd"]), (["nl", "letternumber"], ["Nl"]),
    (["no", "othernumber"], ["No"]), (["n", "number"], ["Nd", "Nl", "No"]),
    (["pc", "connectorpunctuation"], ["Pc"]), (["pd", "dashpunctuation"], ["Pd"]),
    (["pe", "closepunctuation"], ["Pe"]), (["pf", "finalpunctuation"], ["Pf"]),
    (["pi", "initialpunctuation"], ["Pi"]), (["po", "otherpunctuation"], ["Po"]),
    (["ps", "openpunctuation"], ["Ps"]),
    (["p", "punctuation", "punct"], ["Pc", "Pd", "Pe", "Pf", "Pi", "Po", "Ps"]),
    (["sc", "currencysymbol"], ["Sc"]), (["sk", "modifiersymbol"], ["Sk"]),
    (["sm", "mathsymbol"], ["Sm"]), (["so", "othersymbol"], ["So"]),
    (["s", "symbol"], ["Sc", "Sk", "Sm", "So"]),
    (["zl", "lineseparator"], ["Zl"]), (["zp", "paragraphseparator"], ["Zp"]),
    (["zs", "spaceseparator"], ["Zs"]), (["z", "separator"], ["Zl", "Zp", "Zs"]) ]

def binaryAliases : List (List String × String) :=
  [ (["alphabetic", "alpha"], "Alphabetic"), (["lowercase", "lower"], "Lowercase"),
    (["uppercase", "upper"], "Uppercase"), (["whitespace", "wspace", "space"], "White_Space"),
    (["emoji"], "Emoji"), (["math"], "Math"), (["ideographic", "ideo"], "Ideographic"),
    (["hexdigit", "hex"], "Hex_Digit"), (["asciihexdigit", "ahex"], "ASCII_Hex_Digit"),
    (["dash"], "Dash"), (["cased"], "Cased") ]

def scriptAliases : List (String × List String) :=
  (scriptNames.splitOn ";").filterMap fun e =>
    match e.splitOn "=" with
    | code :: names => some (code, (code :: names).map looseName)
    | [] => none

def categoryNamed? (name : String) : Option Property :=
  (categoryAliases.find? fun (names, _) => names.contains name).map fun (_, cs) => .category cs

def scriptNamed? (name : String) : Option Property :=
  (scriptAliases.find? fun (_, names) => names.contains name).map fun (code, _) => .script code

/-- A version of Unicode by a loose name: `Major.Minor`, or `V` followed by the digits
of both (`V16_0` reads as `v160`). -/
def ageNamed? (name : String) : Option Property :=
  (ageVersions.find? fun (a, b) => name == s!"{a}.{b}" || name == s!"v{a}{b}").map
    fun (a, b) => .age a b

/-- A property by its name alone: a special class, a binary property, a general
category or a script, tried in that order. The names `cf`, `sc` and `lc` are general
categories, never binary properties. -/
def propertyNamed? (name : String) : Option Property :=
  let n := looseName name
  match n with
  | "any" => some .any
  | "ascii" => some .ascii
  | "assigned" => some .assigned
  | _ =>
    let binary := if n == "cf" || n == "sc" || n == "lc" then none
      else (binaryAliases.find? fun (names, _) => names.contains n).map fun (_, b) => .binary b
    binary <|> categoryNamed? n <|> scriptNamed? n

/-- A property from the text of a `\p{...}` query: a name alone, or a property name and
a value separated by `=`, `:` or `!=` (the last negating). Gives the property and
whether the query negates it. -/
def propertyQuery? (query : String) : Option (Property × Bool) :=
  let byValue (key value : String) : Option Property :=
    match looseName key with
    | "gc" | "generalcategory" => categoryNamed? (looseName value)
    | "sc" | "script" | "scx" | "scriptextensions" => scriptNamed? (looseName value)
    | "age" => ageNamed? (looseName value)
    | _ => none
  match query.splitOn "!=" with
  | [k, v] => (byValue k v).map (·, true)
  | _ =>
    match query.splitOn "=" with
    | [k, v] => (byValue k v).map (·, false)
    | _ =>
      match query.splitOn ":" with
      | [k, v] => (byValue k v).map (·, false)
      | _ => (propertyNamed? query).map (·, false)

end CapsuleFlow.Text
