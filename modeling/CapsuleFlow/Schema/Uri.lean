import CapsuleFlow.Json.Value

/-!
# References between schemas

Schemas name each other by URI references, resolved against the base URI of the schema
they appear in by the rules of RFC 3986: a reference with a scheme stands alone, one
with an authority keeps only the base's scheme, one with a path is merged with the
base's directory, and one with only a fragment points into the base document. Dot
segments are then removed.

The fragment of a reference is a JSON pointer (`#/$defs/name`) or a plain name given by
`$anchor`. A schema without `$id` has the base `json-schema:///`.
-/

namespace CapsuleFlow.Schema

open CapsuleFlow.Json

def defaultBase : String := "json-schema:///"

/-- The parts of a URI reference. -/
structure UriParts where
  scheme : Option String := none
  authority : Option String := none
  path : String := ""
  query : Option String := none
  fragment : Option String := none
  deriving DecidableEq, Repr, Inhabited

/-- The pieces of a text between the occurrences of a character, as `String.splitOn` cuts
it at that one character. -/
def splitChar (s : String) (c : Char) : List String := (s.toList.splitOn c).map String.ofList

/-- Whether a text begins with another, as `String.startsWith` says. -/
def beginsWith (s p : String) : Bool := p.toList.isPrefixOf s.toList

/-- Splits at the first occurrence of a character. -/
def splitFirst (s : String) (c : Char) : Option (String × String) :=
  match splitChar s c with
  | [] | [_] => none
  | first :: rest => some (first, (String.singleton c).intercalate rest)

/-- Whether a text is a URI scheme: a letter, then letters, digits, `+`, `-` or `.`. -/
def isScheme (s : String) : Bool :=
  match s.toList with
  | c :: cs => c.isAlpha && cs.all fun d => d.isAlphanum || d == '+' || d == '-' || d == '.'
  | [] => false

def UriParts.parse (s : String) : UriParts :=
  let (s, fragment) := match splitFirst s '#' with
    | some (a, b) => (a, some b)
    | none => (s, none)
  let (s, query) := match splitFirst s '?' with
    | some (a, b) => (a, some b)
    | none => (s, none)
  let (scheme, s) := match splitFirst s ':' with
    | some (a, b) => if isScheme a && !a.toList.contains '/' then (some a, b) else (none, s)
    | none => (none, s)
  let (authority, path) :=
    if beginsWith s "//" then
      let rest := (s.drop 2).toString
      match splitChar rest '/' with
      | auth :: segs => if segs.isEmpty then (some auth, "") else (some auth, "/" ++ "/".intercalate segs)
      | [] => (some "", "")
    else (none, s)
  { scheme, authority, path, query, fragment }

def UriParts.text (u : UriParts) : String :=
  (u.scheme.map (· ++ ":")).getD "" ++ (u.authority.map ("//" ++ ·)).getD "" ++ u.path ++
    (u.query.map ("?" ++ ·)).getD "" ++ (u.fragment.map ("#" ++ ·)).getD ""

/-- A path without `.` and `..` segments. -/
def removeDots (path : String) : String :=
  let segs := splitChar path '/'
  let absolute := beginsWith path "/"
  let body := if absolute then segs.drop 1 else segs
  let lastDir := match body.getLast? with
    | some "." | some ".." => true
    | _ => false
  let kept := body.foldl (fun (acc : List String) s =>
    if s == "." then acc
    else if s == ".." then acc.dropLast
    else acc ++ [s]) []
  let kept := if lastDir then kept ++ [""] else kept
  (if absolute then "/" else "") ++ "/".intercalate kept

def mergePath (base : UriParts) (path : String) : String :=
  if base.authority.isSome && base.path.isEmpty then "/" ++ path
  else
    match splitChar base.path '/' with
    | [] | [_] => path
    | segs => "/".intercalate segs.dropLast ++ "/" ++ path

def resolveUri (base reference : String) : String :=
  let b := UriParts.parse base
  let r := UriParts.parse reference
  let t : UriParts :=
    if r.scheme.isSome then { r with path := removeDots r.path }
    else if r.authority.isSome then { r with scheme := b.scheme, path := removeDots r.path }
    else if r.path.isEmpty then
      { b with query := if r.query.isSome then r.query else b.query, fragment := r.fragment }
    else if beginsWith r.path "/" then
      { b with path := removeDots r.path, query := r.query, fragment := r.fragment }
    else
      { b with path := removeDots (mergePath b r.path), query := r.query, fragment := r.fragment }
  t.text

def withoutFragment (uri : String) : String :=
  match splitFirst uri '#' with
  | some (a, _) => a
  | none => uri

def fragmentOf (uri : String) : String :=
  match splitFirst uri '#' with
  | some (_, b) => b
  | none => ""

/-- Decodes `%XX` escapes. -/
def percentDecode (s : String) : String :=
  let hex (c : Char) : Option Nat :=
    if c.isDigit then some (c.toNat - 48)
    else if 'a' ≤ c && c ≤ 'f' then some (c.toNat - 87)
    else if 'A' ≤ c && c ≤ 'F' then some (c.toNat - 55)
    else none
  let rec go : List Char → List UInt8
    | '%' :: a :: b :: rest =>
      match hex a, hex b with
      | some x, some y => (x * 16 + y).toUInt8 :: go rest
      | _, _ => '%'.toString.toUTF8.toList ++ go (a :: b :: rest)
    | c :: rest => c.toString.toUTF8.toList ++ go rest
    | [] => []
  (String.fromUTF8? (ByteArray.mk (go s.toList).toArray)).getD s

/-- The tokens of a JSON pointer, with `~1` and `~0` undone. -/
def pointerTokens (pointer : String) : List String :=
  (splitChar pointer '/').drop 1 |>.map Value.unescapeToken

/-- A JSON pointer token written out: `~` as `~0` and `/` as `~1`. -/
def escapeToken (t : String) : String := (t.replace "~" "~0").replace "/" "~1"

def pointerText (tokens : List String) : String :=
  tokens.foldl (fun acc t => acc ++ "/" ++ escapeToken t) ""

end CapsuleFlow.Schema
