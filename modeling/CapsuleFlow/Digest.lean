import CapsuleFlow.Hash.Blake3
import CapsuleFlow.Hash.Sha256
import CapsuleFlow.Text.Space
import CapsuleFlow.Text.Quote
import CapsuleFlow.Decode.Shape

/-!
# Content digests

A content digest is the hash of canonical bytes together with the algorithm that made
it: BLAKE3, read to a chosen length of 1 to 64 bytes (16 by default), or SHA-256, always
32 bytes. On the wire a digest is `{hex, algorithm, digest_length}` and the hex must be
lowercase, of even length, and encode exactly `digest_length` bytes.

Digests are named by role: `cap_<hex>` for capsules and `pc_<hex>` for policy and
consent classes.
-/

namespace CapsuleFlow

open CapsuleFlow.Decode

/-- The hash algorithms. -/
inductive DigestAlgorithm where
  | blake3
  | sha256
  deriving DecidableEq, Repr, Inhabited

def DigestAlgorithm.name : DigestAlgorithm → String
  | .blake3 => "blake3"
  | .sha256 => "sha256"

/-- Why hashing options or a digest are rejected. -/
inductive CryptoError where
  | invalidDigestLength (algorithm : String) (length : Nat) (reason : String)
  | unknownAlgorithm (name : String)
  deriving DecidableEq, Repr

def CryptoError.message : CryptoError → String
  | .invalidDigestLength a n r => s!"invalid digest length {n} for {a}: {r}"
  | .unknownAlgorithm n => "unknown hash algorithm: " ++ Text.quoted n

def CryptoError.kind : CryptoError → String
  | .invalidDigestLength .. => "InvalidDigestLength"
  | .unknownAlgorithm _ => "UnknownAlgorithm"

/-- An algorithm by name: trimmed, in any ASCII letter case; `sha-256` names SHA-256. -/
def DigestAlgorithm.parse (s : String) : Except CryptoError DigestAlgorithm :=
  match (Text.trim s).map Char.toLower with
  | "blake3" => .ok .blake3
  | "sha256" | "sha-256" => .ok .sha256
  | _ => .error (.unknownAlgorithm s)

/-- A digest: its algorithm and its bytes. -/
structure ContentDigest where
  algorithm : DigestAlgorithm
  bytes : List UInt8
  deriving DecidableEq, Repr

namespace ContentDigest

/-- The digest in lowercase hex. -/
def hex (d : ContentDigest) : String := Hash.toHex d.bytes

def length (d : ContentDigest) : Nat := d.bytes.length

/-- `<algorithm>:<hex>`. -/
def display (d : ContentDigest) : String := s!"{d.algorithm.name}:{d.hex}"

end ContentDigest

/-- Nonempty and only `0-9a-f`. -/
def isLowerHex (s : String) : Bool :=
  !s.isEmpty && s.all fun c => c.isDigit || ('a' ≤ c && c ≤ 'f')

/-- The value of a lowercase hex digit. -/
def lowerHexValue (c : Char) : Nat :=
  if c.isDigit then c.toNat - '0'.toNat else c.toNat - 'a'.toNat + 10

/-- The bytes of lowercase hex, two digits each. -/
def hexBytes : List Char → List UInt8
  | a :: b :: rest => (lowerHexValue a * 16 + lowerHexValue b).toUInt8 :: hexBytes rest
  | _ => []

/-- The bytes of an even-length lowercase hex string. -/
def decodeHex (s : String) : Option (List UInt8) :=
  if s.utf8ByteSize % 2 != 0 || !isLowerHex s then none else some (hexBytes s.toList)

def ContentDigest.fromHex (alg : DigestAlgorithm) (hex : String) :
    Except CryptoError ContentDigest :=
  match decodeHex hex with
  | some bytes => .ok ⟨alg, bytes⟩
  | none => .error (.invalidDigestLength alg.name hex.utf8ByteSize
      "digest hex must be an even number of lowercase hex characters")

/-- A digest from its wire record: the hex must encode `declared` bytes. -/
def ContentDigest.fromRecord (alg : DigestAlgorithm) (hex : String) (declared : Nat) :
    Except CryptoError ContentDigest := do
  let d ← ContentDigest.fromHex alg hex
  if d.length != declared then
    throw (.invalidDigestLength alg.name declared s!"hex encodes {d.length} bytes")
  return d

def blake3DefaultLength : Nat := 16

def blake3MaxLength : Nat := 64

def sha256Length : Nat := 32

/-- Checked hashing options. -/
structure HashOptions where
  algorithm : DigestAlgorithm := .blake3
  digestLength : Nat := blake3DefaultLength
  deriving DecidableEq, Repr, Inhabited

/-- Options for an algorithm and an optional length: BLAKE3 takes 1 to 64 bytes (16
when none is given), SHA-256 only 32. -/
def HashOptions.new (alg : DigestAlgorithm) (length : Option Nat) :
    Except CryptoError HashOptions :=
  match alg with
  | .blake3 =>
    let n := length.getD blake3DefaultLength
    if n == 0 || n > blake3MaxLength then
      .error (.invalidDigestLength alg.name n s!"must be between 1 and {blake3MaxLength} bytes")
    else .ok ⟨.blake3, n⟩
  | .sha256 =>
    match length with
    | none => .ok ⟨.sha256, sha256Length⟩
    | some n =>
      if n == sha256Length then .ok ⟨.sha256, sha256Length⟩
      else .error (.invalidDigestLength alg.name n
        s!"sha256 digests are always {sha256Length} bytes")

def HashOptions.sha256 : HashOptions := ⟨.sha256, sha256Length⟩

def digestBytes (o : HashOptions) (bytes : List UInt8) : ContentDigest :=
  match o.algorithm with
  | .blake3 => ⟨.blake3, Hash.blake3 bytes o.digestLength⟩
  | .sha256 => ⟨.sha256, Hash.sha256 bytes⟩

def digestText (o : HashOptions) (text : String) : ContentDigest :=
  digestBytes o text.toUTF8.toList

/-- The roles a digest is named for. -/
inductive Role where
  | capsule
  | policy
  deriving DecidableEq, Repr, Inhabited

def Role.idPrefix : Role → String
  | .capsule => "cap_"
  | .policy => "pc_"

def Role.idOf (r : Role) (d : ContentDigest) : String := r.idPrefix ++ d.hex

/-- An identifier of a role: the prefix and nonempty lowercase hex. -/
def Role.parseId (r : Role) (s : String) : Option String :=
  if s.startsWith r.idPrefix then
    let hex := (s.drop r.idPrefix.length).toString
    if isLowerHex hex then some s else none
  else none

def Role.idHex (r : Role) (id : String) : String := (id.drop r.idPrefix.length).toString

/-! ## Reading and writing -/

def DigestAlgorithm.shape : Shape :=
  .enum "DigestAlgorithm" [.unit "blake3", .unit "sha256"]

def DigestAlgorithm.ofDatum : Datum → DigestAlgorithm
  | .variant "sha256" _ => .sha256
  | _ => .blake3

def DigestAlgorithm.toDatum (a : DigestAlgorithm) : Datum := .variant a.name .unit

/-- `usize` on the wire. -/
def usizeShape : Shape := .unsigned "usize" (Nat.pow 2 64 - 1)

def HashOptions.toDatum (o : HashOptions) : Datum :=
  .record [("algorithm", o.algorithm.toDatum), ("digest_length", .int o.digestLength)]

/-- Options from a datum written by `toDatum`. -/
def HashOptions.ofDatum : Datum → HashOptions
  | .record [(_, a), (_, n)] => ⟨DigestAlgorithm.ofDatum a, n.nat⟩
  | _ => {}

/-- The shape of hashing options: `{algorithm?, digest_length?}`, checked. -/
def HashOptions.shape : Shape :=
  .checked (.record "Raw" [
      ("algorithm", DigestAlgorithm.shape, .default (DigestAlgorithm.toDatum .blake3)),
      ("digest_length", .option usizeShape, .none)])
    fun d => match d with
      | .record [(_, a), (_, n)] =>
        let length := match n with
          | .some (.int i) => some i.toNat
          | _ => none
        match HashOptions.new (DigestAlgorithm.ofDatum a) length with
        | .ok o => .ok o.toDatum
        | .error e => .error e.message
      | _ => .ok d

def ContentDigest.toDatum (d : ContentDigest) : Datum :=
  .record [("hex", .str d.hex), ("algorithm", d.algorithm.toDatum), ("digest_length", .int d.length)]

/-- A digest from a datum written by `toDatum`. -/
def ContentDigest.ofDatum : Datum → ContentDigest
  | .record [(_, .str hex), (_, a), _] =>
    ⟨DigestAlgorithm.ofDatum a, (decodeHex hex).getD []⟩
  | _ => ⟨.blake3, []⟩

def ContentDigest.shape : Shape :=
  .checked (.record "DigestRecord" [
      ("hex", .string "a string", .required),
      ("algorithm", DigestAlgorithm.shape, .required),
      ("digest_length", usizeShape, .required)])
    fun d => match d with
      | .record [(_, .str hex), (_, a), (_, n)] =>
        match ContentDigest.fromRecord (DigestAlgorithm.ofDatum a) hex n.nat with
        | .ok dg => .ok dg.toDatum
        | .error e => .error e.message
      | _ => .ok d

def HashOptions.toJson (o : HashOptions) : Json.Value :=
  Json.Value.obj [("algorithm", .string o.algorithm.name), ("digest_length", Json.Value.nat o.digestLength)]

def ContentDigest.toJson (d : ContentDigest) : Json.Value :=
  Json.Value.obj [("hex", .string d.hex), ("algorithm", .string d.algorithm.name),
    ("digest_length", Json.Value.nat d.length), ("display", .string d.display)]

end CapsuleFlow
