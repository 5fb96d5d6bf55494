import CapsuleFlow.Hash.Bytes

/-!
# BLAKE3 with extendable output

The input is cut into chunks of 1024 bytes (one empty chunk for an empty input), each
chunk into blocks of 64 bytes. A chunk's blocks are compressed in turn from the key
words, the first flagged as the chunk start and the last as the chunk end; chunks form
a binary tree whose left subtree always holds the largest power of two of chunks that
leaves at least one for the right, and each parent compresses its two children's
chaining values. The root is compressed once more per 64 bytes of output, counting
output blocks, so a shorter output is always a prefix of a longer one.
-/

namespace CapsuleFlow.Hash

def blake3Key : Array UInt32 :=
  #[0x6A09E667, 0xBB67AE85, 0x3C6EF372, 0xA54FF53A, 0x510E527F, 0x9B05688C, 0x1F83D9AB, 0x5BE0CD19]

def chunkStart : UInt32 := 1
/-- The last block of a chunk. -/
def chunkEnd : UInt32 := 2
def parentFlag : UInt32 := 4
def rootFlag : UInt32 := 8

def blake3Permutation : Array Nat := #[2, 6, 3, 10, 7, 0, 4, 13, 1, 11, 12, 5, 9, 14, 15, 8]

/-- The quarter-round on state words `a b c d` with message words `x y`. -/
def blake3G (s : Array UInt32) (a b c d : Nat) (x y : UInt32) : Array UInt32 :=
  let sa := s[a]! + s[b]! + x
  let sd := rotr (s[d]! ^^^ sa) 16
  let sc := s[c]! + sd
  let sb := rotr (s[b]! ^^^ sc) 12
  let sa := sa + sb + y
  let sd := rotr (sd ^^^ sa) 8
  let sc := sc + sd
  let sb := rotr (sb ^^^ sc) 7
  ((s.set! a sa).set! b sb |>.set! c sc).set! d sd

/-- A round: the columns, then the diagonals. -/
def blake3Round (s : Array UInt32) (m : Array UInt32) : Array UInt32 :=
  let s := blake3G s 0 4 8 12 m[0]! m[1]!
  let s := blake3G s 1 5 9 13 m[2]! m[3]!
  let s := blake3G s 2 6 10 14 m[4]! m[5]!
  let s := blake3G s 3 7 11 15 m[6]! m[7]!
  let s := blake3G s 0 5 10 15 m[8]! m[9]!
  let s := blake3G s 1 6 11 12 m[10]! m[11]!
  let s := blake3G s 2 7 8 13 m[12]! m[13]!
  blake3G s 3 4 9 14 m[14]! m[15]!

/-- The compression function: sixteen output words from a chaining value, a block of
sixteen words, a counter, the block length and the flags. -/
def blake3Compress (cv : Array UInt32) (block : Array UInt32) (counter : Nat)
    (blockLen : Nat) (flags : UInt32) : Array UInt32 :=
  let s0 := cv ++ #[blake3Key[0]!, blake3Key[1]!, blake3Key[2]!, blake3Key[3]!,
    (counter % Nat.pow 2 32).toUInt32, (counter / Nat.pow 2 32 % Nat.pow 2 32).toUInt32, blockLen.toUInt32, flags]
  let (s, _) := (List.range 7).foldl (fun (s, m) _ =>
    (blake3Round s m, blake3Permutation.map fun i => m[i]!)) (s0, block)
  (List.range 16).toArray.map fun i =>
    if i < 8 then s[i]! ^^^ s[i + 8]! else s[i]! ^^^ cv[i - 8]!

/-- A node not yet compressed: the inputs of its last compression. -/
structure Blake3Node where
  cv : Array UInt32
  block : Array UInt32
  counter : Nat
  blockLen : Nat
  flags : UInt32

/-- The chaining value of a node that is not the root. -/
def Blake3Node.chainingValue (n : Blake3Node) : Array UInt32 :=
  (blake3Compress n.cv n.block n.counter n.blockLen n.flags).extract 0 8

/-- The node of one chunk, `index` counting chunks from zero. -/
def blake3Chunk (index : Nat) (chunk : List UInt8) : Blake3Node :=
  let blocks := match blocksOf 64 chunk with
    | [] => [[]]
    | bs => bs
  let rec go (cv : Array UInt32) (first : Bool) : List (List UInt8) → Blake3Node
    | [] => ⟨cv, wordsLE [] 16, index, 0, chunkStart ||| chunkEnd⟩
    | [last] =>
      ⟨cv, wordsLE last 16, index, last.length, (if first then chunkStart else 0) ||| chunkEnd⟩
    | b :: rest =>
      let cv := (blake3Compress cv (wordsLE b 16) index 64
        (if first then chunkStart else 0)).extract 0 8
      go cv false rest
  go blake3Key true blocks

def blake3Parent (left right : Array UInt32) : Blake3Node :=
  ⟨blake3Key, left ++ right, 0, 64, parentFlag⟩

/-- The largest power of two strictly below `n` (for `n ≥ 2`). -/
def leftChunks (n : Nat) : Nat := Nat.pow 2 (Nat.log2 (n - 1))

/-- The node of the subtree over `chunks`, the first of which has index `first`. -/
def blake3Tree (fuel : Nat) (first : Nat) (chunks : List (List UInt8)) : Blake3Node :=
  match fuel, chunks with
  | _, [] => blake3Chunk first []
  | _, [c] => blake3Chunk first c
  | 0, c :: _ => blake3Chunk first c
  | fuel + 1, cs =>
    let k := leftChunks cs.length
    let left := blake3Tree fuel first (cs.take k)
    let right := blake3Tree fuel (first + k) (cs.drop k)
    blake3Parent left.chainingValue right.chainingValue

/-- The first `length` bytes of the extendable output of BLAKE3 over `msg`. -/
def blake3 (msg : List UInt8) (length : Nat) : List UInt8 :=
  let chunks := blocksOf 1024 msg
  let root := blake3Tree chunks.length 0 chunks
  let outputBlocks := (length + 63) / 64
  let out := (List.range outputBlocks).flatMap fun t =>
    (blake3Compress root.cv root.block t root.blockLen (root.flags ||| rootFlag)).toList.flatMap
      bytesLE
  out.take length

end CapsuleFlow.Hash
