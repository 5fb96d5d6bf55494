import CapsuleFlow.Canonical
import CapsuleFlow.Decode.Shape
import CapsuleFlow.Text.Space
import CapsuleFlow.Numeric.Read

/-!
# HREF lines

An HREF is one human-readable line naming a companion, a policy hash, a capsule hash and
a small state head:

    〔HREF:v1〕 comp=Stranger pc=pc_7d3a cap=cap_19b2 head=λ1.65 π0.86 ε0.74 HP=lite mode=presence OHI=warm(0.71) hot=a,b

Reading a line is tolerant: extra white space is ignored, unknown tokens are skipped, and
a head item that does not read is left absent (an unknown OHI state reads as `unknown`).
Numbers are written with at most six decimals, through the canonical float text.
-/

namespace CapsuleFlow

open Decode

def hrefPrefix : String := "〔HREF:v1〕"

/-- At most this many hot entries are written. -/
def maxHot : Nat := 12

def hrefKeys : List String := ["comp=", "pc=", "cap=", "head=", "hot="]

/-- The HP setting. -/
inductive HpMode where
  | off | lite | full
  deriving DecidableEq, Repr, Inhabited

/-- The mode of the exchange. -/
inductive Mode where
  | presence | gtd | story | intimacy | sensual | narrative | unknown
  deriving DecidableEq, Repr, Inhabited

/-- The state of the OHI indicator. -/
inductive OhiState where
  | tight | warm | atRisk | cold | unknown
  deriving DecidableEq, Repr, Inhabited

def HpMode.named : List (HpMode × String) := [(.off, "off"), (.lite, "lite"), (.full, "full")]

def Mode.named : List (Mode × String) :=
  [(.presence, "presence"), (.gtd, "GTD"), (.story, "story"), (.intimacy, "intimacy"),
   (.sensual, "sensual"), (.narrative, "narrative"), (.unknown, "unknown")]

def OhiState.named : List (OhiState × String) :=
  [(.tight, "tight"), (.warm, "warm"), (.atRisk, "at_risk"), (.cold, "cold"),
   (.unknown, "unknown")]

def HpMode.name : HpMode → String
  | .off => "off" | .lite => "lite" | .full => "full"

def Mode.name : Mode → String
  | .presence => "presence" | .gtd => "GTD" | .story => "story" | .intimacy => "intimacy"
  | .sensual => "sensual" | .narrative => "narrative" | .unknown => "unknown"

def OhiState.name : OhiState → String
  | .tight => "tight" | .warm => "warm" | .atRisk => "at_risk" | .cold => "cold"
  | .unknown => "unknown"

def lookupName {α : Type} (table : List (α × String)) (s : String) : Option α :=
  (table.find? (·.2 == s)).map (·.1)

/-- The OHI indicator: a state and an optional value. -/
structure Ohi where
  state : OhiState
  value : Option Float := none
  deriving Inhabited

/-- The state head of an HREF. -/
structure HrefHead where
  lambda : Option Float := none
  permeability : Option Float := none
  entropy : Option Float := none
  hp : Option HpMode := none
  mode : Option Mode := none
  ohi : Option Ohi := none
  deriving Inhabited

/-- An HREF reference. -/
structure Href where
  comp : String
  pc : String
  cap : String
  head : HrefHead := {}
  hot : List String := []
  deriving Inhabited

section Reading

def afterPrefix (s p : String) : Option String :=
  if s.startsWith p then some (s.drop p.length).toString else none

def isHrefKey (t : String) : Bool := hrefKeys.any fun k => t.startsWith k

def finiteNumber? (s : String) : Option Float :=
  (Numeral.read? s).bind fun n =>
    let x := n.toFloat
    if x.value matches .finite _ then some x else none

/-- `warm(0.71)` or `warm`: the name must be letters and `_`; a value that does not
read is left out; an opening parenthesis must be closed at the end. -/
def parseOhi (s : String) : Option Ohi := do
  let (name, value) ← match s.splitOn "(" with
    | [name] => pure (name, none)
    | name :: rest =>
      let inner := "(".intercalate rest
      if inner.endsWith ")" then pure (name, some (inner.dropEnd 1).toString) else none
    | [] => pure (s, none)
  if name.isEmpty || !name.all (fun c => c.isAlpha || c == '_') then none
  return { state := (lookupName OhiState.named name).getD .unknown
           value := value.bind finiteNumber? }

/-- Reads one head item into the head; an item of no known kind changes nothing. -/
def readHeadItem (h : HrefHead) (bit : String) : HrefHead :=
  if let some v := afterPrefix bit "λ" then { h with lambda := finiteNumber? v }
  else if let some v := afterPrefix bit "π" then { h with permeability := finiteNumber? v }
  else if let some v := afterPrefix bit "ε" then { h with entropy := finiteNumber? v }
  else if let some v := afterPrefix bit "HP=" then { h with hp := lookupName HpMode.named v }
  else if let some v := afterPrefix bit "mode=" then { h with mode := lookupName Mode.named v }
  else if let some v := afterPrefix bit "OHI=" then { h with ohi := parseOhi v }
  else h

/-- What a scan of the tokens has found so far. -/
structure HrefScan where
  comp : Option String := none
  pc : Option String := none
  cap : Option String := none
  head : List String := []
  hot : List String := []
  /-- Whether the tokens being read belong to a head. -/
  inHead : Bool := false

/-- Reads one token. A key's part replaces any earlier one; `head=` takes the tokens
after it up to the next key; other tokens are skipped. -/
def HrefScan.step (s : HrefScan) (t : String) : HrefScan :=
  if isHrefKey t then
    let s := { s with inHead := false }
    if let some v := afterPrefix t "comp=" then { s with comp := some v }
    else if let some v := afterPrefix t "pc=" then { s with pc := some v }
    else if let some v := afterPrefix t "cap=" then { s with cap := some v }
    else if let some v := afterPrefix t "hot=" then
      { s with hot := ((v.splitOn ",").map Text.trim).filter (!·.isEmpty) }
    else if let some v := afterPrefix t "head=" then { s with head := [v], inHead := true }
    else s
  else if s.inHead then { s with head := s.head ++ [t] }
  else s

/-- Reads an HREF line: `none` without the prefix or without a non-empty `comp`, `pc`
and `cap`. -/
def Href.parse (line : String) : Option Href := do
  let body ← afterPrefix (Text.trim line) hrefPrefix
  let s := (Text.words body).foldl HrefScan.step {}
  let nonEmpty (o : Option String) : Option String := o.filter (!·.isEmpty)
  return { comp := ← nonEmpty s.comp, pc := ← nonEmpty s.pc, cap := ← nonEmpty s.cap
           head := (s.head.filter (!·.isEmpty)).foldl readHeadItem {}
           hot := s.hot }

end Reading

section Writing

/-- A head number as written: the canonical text at six decimals, or nothing. -/
def headNumber (x : Float) : Option String :=
  match canonicalFloat x 6 with
  | .ok t => some t
  | .error _ => none

/-- The items of a head, in their order; absent ones are left out. -/
def HrefHead.items (h : HrefHead) : List String :=
  let numbers := [("λ", h.lambda), ("π", h.permeability), ("ε", h.entropy)].filterMap
    fun (symbol, x) => (x.bind headNumber).map (symbol ++ ·)
  let hp := h.hp.toList.map fun m => s!"HP={m.name}"
  let mode := h.mode.toList.map fun m => s!"mode={m.name}"
  let ohi := h.ohi.toList.map fun o =>
    let value := match o.value.bind headNumber with
      | some t => s!"({t})"
      | none => ""
    s!"OHI={o.state.name}{value}"
  numbers ++ hp ++ mode ++ ohi

def Href.line (h : Href) : String :=
  let base := s!"{hrefPrefix} comp={h.comp} pc={h.pc} cap={h.cap}"
  let items := h.head.items
  let head := if items.isEmpty then "" else " head=" ++ " ".intercalate items
  let hot := if h.hot.isEmpty then "" else " hot=" ++ ",".intercalate (h.hot.take maxHot)
  base ++ head ++ hot

end Writing

section Wire

def namedShape {α : Type} (name : String) (table : List (α × String)) : Shape :=
  .enum name (table.map fun (_, n) => .unit n)

def ofVariant {α : Type} (table : List (α × String)) : Datum → Option α
  | .variant n _ => lookupName table n
  | _ => none

def optionalFloat : Datum → Option Float
  | .some (.float x) => some x
  | _ => none

def Ohi.shape : Shape :=
  .record "Ohi" [("state", namedShape "OhiState" OhiState.named, .required),
    ("value", .option .f64, .default .none)]

/-- The shape of a head: every item optional. -/
def HrefHead.shape : Shape :=
  .record "HrefHead" [
    ("lambda", .option .f64, .default .none),
    ("permeability", .option .f64, .default .none),
    ("entropy", .option .f64, .default .none),
    ("HP", .option (namedShape "HpMode" HpMode.named), .default .none),
    ("mode", .option (namedShape "Mode" Mode.named), .default .none),
    ("ohi", .option Ohi.shape, .default .none)]

def Href.shape : Shape :=
  .record "HrefV1" [
    ("comp", .string "a string", .required),
    ("pc", .string "a string", .required),
    ("cap", .string "a string", .required),
    ("head", HrefHead.shape, .default (.record [])),
    ("hot", .seq (.string "a string"), .default (.seq []))]

def HrefHead.ofDatum : Datum → HrefHead
  | .record [(_, l), (_, p), (_, e), (_, hp), (_, m), (_, o)] =>
    { lambda := optionalFloat l, permeability := optionalFloat p, entropy := optionalFloat e
      hp := match hp with
        | .some d => ofVariant HpMode.named d
        | _ => none
      mode := match m with
        | .some d => ofVariant Mode.named d
        | _ => none
      ohi := match o with
        | .some (.record [(_, s), (_, v)]) =>
          some { state := (ofVariant OhiState.named s).getD .unknown, value := optionalFloat v }
        | _ => none }
  | _ => {}

def Href.ofDatum : Datum → Href
  | .record [(_, .str c), (_, .str p), (_, .str k), (_, h), (_, .seq hot)] =>
    { comp := c, pc := p, cap := k, head := HrefHead.ofDatum h, hot := hot.map Datum.text }
  | _ => { comp := "", pc := "", cap := "" }

/-- A head on the wire: absent items are left out. -/
def HrefHead.toJson (h : HrefHead) : Json.Value :=
  let num (k : String) (x : Option Float) : List (String × Json.Value) :=
    x.toList.map fun x => (k, .number (.float x))
  Json.Value.obj (num "lambda" h.lambda ++ num "permeability" h.permeability ++
    num "entropy" h.entropy ++ h.hp.toList.map (fun m => ("HP", .string m.name)) ++
    h.mode.toList.map (fun m => ("mode", .string m.name)) ++
    h.ohi.toList.map fun o => ("ohi", Json.Value.obj ([("state", .string o.state.name)] ++
      num "value" o.value)))

/-- An HREF on the wire: `hot` is left out when empty. -/
def Href.toJson (h : Href) : Json.Value :=
  Json.Value.obj ([("comp", .string h.comp), ("pc", .string h.pc), ("cap", .string h.cap),
    ("head", h.head.toJson)] ++
    (if h.hot.isEmpty then [] else [("hot", .array (h.hot.map .string))]))

end Wire

end CapsuleFlow
