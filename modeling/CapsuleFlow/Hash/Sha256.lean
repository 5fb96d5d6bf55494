import CapsuleFlow.Hash.Bytes

/-!
# SHA-256

The message is padded with a one bit, zeros, and its length in bits as a 64-bit
big-endian number, to a multiple of 64 bytes; each 64-byte block is expanded to 64
words and mixed into the eight-word state; the digest is the final state, big-endian.
-/

namespace CapsuleFlow.Hash

def sha256K : Array UInt32 := #[
  0x428a2f98, 0x71374491, 0xb5c0fbcf, 0xe9b5dba5, 0x3956c25b, 0x59f111f1, 0x923f82a4, 0xab1c5ed5,
  0xd807aa98, 0x12835b01, 0x243185be, 0x550c7dc3, 0x72be5d74, 0x80deb1fe, 0x9bdc06a7, 0xc19bf174,
  0xe49b69c1, 0xefbe4786, 0x0fc19dc6, 0x240ca1cc, 0x2de92c6f, 0x4a7484aa, 0x5cb0a9dc, 0x76f988da,
  0x983e5152, 0xa831c66d, 0xb00327c8, 0xbf597fc7, 0xc6e00bf3, 0xd5a79147, 0x06ca6351, 0x14292967,
  0x27b70a85, 0x2e1b2138, 0x4d2c6dfc, 0x53380d13, 0x650a7354, 0x766a0abb, 0x81c2c92e, 0x92722c85,
  0xa2bfe8a1, 0xa81a664b, 0xc24b8b70, 0xc76c51a3, 0xd192e819, 0xd6990624, 0xf40e3585, 0x106aa070,
  0x19a4c116, 0x1e376c08, 0x2748774c, 0x34b0bcb5, 0x391c0cb3, 0x4ed8aa4a, 0x5b9cca4f, 0x682e6ff3,
  0x748f82ee, 0x78a5636f, 0x84c87814, 0x8cc70208, 0x90befffa, 0xa4506ceb, 0xbef9a3f7, 0xc67178f2]

def sha256Initial : Array UInt32 :=
  #[0x6a09e667, 0xbb67ae85, 0x3c6ef372, 0xa54ff53a, 0x510e527f, 0x9b05688c, 0x1f83d9ab, 0x5be0cd19]

/-- The padded message: a `0x80` byte, zeros, and the bit length in eight bytes. -/
def sha256Pad (msg : List UInt8) : List UInt8 :=
  let len := msg.length
  let zeros := (119 - len % 64) % 64
  let bits := 8 * len
  msg ++ [0x80] ++ List.replicate zeros 0 ++
    (List.range 8).reverse.map fun i => (bits / Nat.pow 2 (8 * i) % 256).toUInt8

def sha256Schedule (block : List UInt8) : Array UInt32 :=
  (List.range 48).foldl (fun w i =>
    let t := i + 16
    let w15 := w[t - 15]!
    let w2 := w[t - 2]!
    let s0 := rotr w15 7 ^^^ rotr w15 18 ^^^ (w15 >>> 3)
    let s1 := rotr w2 17 ^^^ rotr w2 19 ^^^ (w2 >>> 10)
    w.push (w[t - 16]! + s0 + w[t - 7]! + s1)) (wordsBE block 16)

/-- One round of the compression on the working variables `a … h`. -/
def sha256Round (v : Array UInt32) (k w : UInt32) : Array UInt32 :=
  let a := v[0]!
  let b := v[1]!
  let c := v[2]!
  let d := v[3]!
  let e := v[4]!
  let f := v[5]!
  let g := v[6]!
  let h := v[7]!
  let s1 := rotr e 6 ^^^ rotr e 11 ^^^ rotr e 25
  let ch := (e &&& f) ^^^ (~~~e &&& g)
  let t1 := h + s1 + ch + k + w
  let s0 := rotr a 2 ^^^ rotr a 13 ^^^ rotr a 22
  let maj := (a &&& b) ^^^ (a &&& c) ^^^ (b &&& c)
  let t2 := s0 + maj
  #[t1 + t2, a, b, c, d + t1, e, f, g]

def sha256Block (state : Array UInt32) (block : List UInt8) : Array UInt32 :=
  let w := sha256Schedule block
  let v := (List.range 64).foldl (fun v i => sha256Round v sha256K[i]! w[i]!) state
  (List.range 8).toArray.map fun i => state[i]! + v[i]!

def sha256 (msg : List UInt8) : List UInt8 :=
  let state := (blocksOf 64 (sha256Pad msg)).foldl sha256Block sha256Initial
  state.toList.flatMap bytesBE

end CapsuleFlow.Hash
