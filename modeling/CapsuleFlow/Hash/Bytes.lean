/-!
# Bytes and words

Helpers shared by the hash functions: cutting a byte list into fixed-size blocks,
reading and writing 32-bit words in either byte order, rotating words, and printing
bytes as lowercase hexadecimal.
-/

namespace CapsuleFlow.Hash

/-- Cuts a byte list into blocks of `size` bytes; the last block may be shorter. No
block is empty, so an empty list has no blocks. -/
def blocksOf (size : Nat) (bytes : List UInt8) : List (List UInt8) :=
  go bytes.length bytes
where
  /-- Cuts with a bound on the number of blocks. -/
  go : Nat → List UInt8 → List (List UInt8)
    | 0, _ => []
    | n + 1, bs => if bs.isEmpty then [] else bs.take size :: go n (bs.drop size)

def wordBE (b0 b1 b2 b3 : UInt8) : UInt32 :=
  (b0.toUInt32 <<< 24) ||| (b1.toUInt32 <<< 16) ||| (b2.toUInt32 <<< 8) ||| b3.toUInt32

def wordLE (b0 b1 b2 b3 : UInt8) : UInt32 := wordBE b3 b2 b1 b0

/-- Words of a block read four bytes at a time, big-endian; missing bytes are zero. -/
def wordsBE (block : List UInt8) (count : Nat) : Array UInt32 :=
  (List.range count).toArray.map fun i =>
    wordBE (block.getD (4 * i) 0) (block.getD (4 * i + 1) 0) (block.getD (4 * i + 2) 0)
      (block.getD (4 * i + 3) 0)

/-- Words of a block read four bytes at a time, little-endian; missing bytes are zero. -/
def wordsLE (block : List UInt8) (count : Nat) : Array UInt32 :=
  (List.range count).toArray.map fun i =>
    wordLE (block.getD (4 * i) 0) (block.getD (4 * i + 1) 0) (block.getD (4 * i + 2) 0)
      (block.getD (4 * i + 3) 0)

def bytesBE (w : UInt32) : List UInt8 :=
  [(w >>> 24).toUInt8, (w >>> 16).toUInt8, (w >>> 8).toUInt8, w.toUInt8]

def bytesLE (w : UInt32) : List UInt8 := (bytesBE w).reverse

/-- Rotation of a word right by `n` places, `0 < n < 32`. -/
def rotr (x : UInt32) (n : UInt32) : UInt32 := (x >>> n) ||| (x <<< (32 - n))

/-- A hexadecimal digit in lowercase. -/
def hexDigit (n : Nat) : Char :=
  if n < 10 then Char.ofNat (48 + n) else Char.ofNat (87 + n)

/-- Bytes as lowercase hexadecimal, two digits each. -/
def toHex (bytes : List UInt8) : String :=
  String.ofList (bytes.flatMap fun b => [hexDigit (b.toNat / 16), hexDigit (b.toNat % 16)])

end CapsuleFlow.Hash
