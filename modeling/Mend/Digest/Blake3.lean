import Mend.Digest.Words

/-!
# BLAKE3

The unkeyed hash with thirty-two bytes of output. A message is cut into chunks of 1024 bytes, each
folded block by block into a chaining value; the chaining values are the leaves of a binary tree
whose left subtrees are complete, and the root node yields the output.
-/

namespace Mend.Digest.Blake3

/-- A chaining value: eight words. -/
abbrev Chain := Vector UInt32 8

/-- A block: sixteen words. -/
abbrev Block := Vector UInt32 16

/-- The initial chaining value. -/
def iv : Chain :=
  #v[0x6a09e667, 0xbb67ae85, 0x3c6ef372, 0xa54ff53a, 0x510e527f, 0x9b05688c, 0x1f83d9ab, 0x5be0cd19]

/-- Marks the first block of a chunk. -/
def chunkStart : UInt32 := 1
/-- Marks the last block of a chunk. -/
def chunkEnd : UInt32 := 2
/-- Marks an inner node of the tree. -/
def parent : UInt32 := 4
/-- Marks the root of the tree. -/
def root : UInt32 := 8

/-- Rotation to the right. -/
def rotr (x : UInt32) (n : UInt32) : UInt32 := (x >>> n) ||| (x <<< (32 - n))

/-- Mixes two message words into one column or diagonal of the state. -/
def mix (v : Block) (a b c d : Fin 16) (x y : UInt32) : Block :=
  let va := v[a] + v[b] + x
  let vd := rotr (v[d] ^^^ va) 16
  let vc := v[c] + vd
  let vb := rotr (v[b] ^^^ vc) 12
  let va := va + vb + y
  let vd := rotr (vd ^^^ va) 8
  let vc := vc + vd
  let vb := rotr (vb ^^^ vc) 7
  (((v.set a va).set b vb).set c vc).set d vd

/-- Four columns, then four diagonals. -/
def round (v m : Block) : Block :=
  let v := mix v 0 4 8 12 m[0] m[1]
  let v := mix v 1 5 9 13 m[2] m[3]
  let v := mix v 2 6 10 14 m[4] m[5]
  let v := mix v 3 7 11 15 m[6] m[7]
  let v := mix v 0 5 10 15 m[8] m[9]
  let v := mix v 1 6 11 12 m[10] m[11]
  let v := mix v 2 7 8 13 m[12] m[13]
  mix v 3 4 9 14 m[14] m[15]

/-- The order in which the next round takes the message words. -/
def permute (m : Block) : Block :=
  #v[m[2], m[6], m[3], m[10], m[7], m[0], m[4], m[13], m[1], m[11], m[12], m[5], m[9], m[14], m[15], m[8]]

/-- A node whose last compression is still to be done, because the root is flagged. -/
structure Node where
  chain : Chain
  block : Block
  counter : UInt64
  length : UInt32
  flags : UInt32

/-- The compression function, cut to its first eight words. -/
def compress (n : Node) : Chain :=
  let v : Block := #v[
    n.chain[0], n.chain[1], n.chain[2], n.chain[3], n.chain[4], n.chain[5], n.chain[6], n.chain[7],
    iv[0], iv[1], iv[2], iv[3], n.counter.toUInt32, (n.counter >>> 32).toUInt32, n.length, n.flags]
  let (v, _) := (List.range 7).foldl (fun (v, m) _ => (round v m, permute m)) (v, n.block)
  Vector.ofFn fun (i : Fin 8) => v[i.val] ^^^ v[i.val + 8]

/-- The little-endian word at a byte offset; bytes past `stop` count as zero. -/
def word (b : ByteArray) (stop i : Nat) : UInt32 :=
  let byte (j : Nat) : UInt32 := if j < stop then (b.get! j).toUInt32 else 0
  byte i ||| (byte (i + 1) <<< 8) ||| (byte (i + 2) <<< 16) ||| (byte (i + 3) <<< 24)

/-- The node of the chunk that holds the bytes from `start` to `stop`. -/
def chunk (b : ByteArray) (start stop counter : Nat) : Node :=
  let blocks := max 1 ((stop - start + 63) / 64)
  let node (chain : Chain) (k : Nat) : Node :=
    let at_ := start + 64 * k
    { chain := chain
      block := Vector.ofFn fun (i : Fin 16) => word b stop (at_ + 4 * i.val)
      counter := UInt64.ofNat counter
      length := UInt32.ofNat (min 64 (stop - at_))
      flags := (if k = 0 then chunkStart else 0) ||| (if k + 1 = blocks then chunkEnd else 0) }
  node ((List.range (blocks - 1)).foldl (fun chain k => compress (node chain k)) iv) (blocks - 1)

/-- The node above two chaining values. -/
def join (left right : Chain) : Node :=
  { chain := iv, block := (left ++ right : Vector UInt32 (8 + 8)), counter := 0, length := 64, flags := parent }

/-- The largest power of two below `n`, for `n` at least two. -/
def leftSize (n : Nat) : Nat := Nat.pow 2 (Nat.log2 (n - 1))

/-- The node over `count` chunks from chunk `first` on. The depth of the tree bounds the recursion;
`depth` of `count` is enough. -/
def tree (b : ByteArray) : Nat → Nat → Nat → Node
  | 0, first, _ => chunk b (1024 * first) (min b.size (1024 * first + 1024)) first
  | depth + 1, first, count =>
    if count ≤ 1 then chunk b (1024 * first) (min b.size (1024 * first + 1024)) first
    else
      let left := leftSize count
      join (compress (tree b depth first left)) (compress (tree b depth (first + left) (count - left)))

/-- The BLAKE3 digest of a message. -/
def hash (message : ByteArray) : Vector UInt8 32 :=
  let count := max 1 ((message.size + 1023) / 1024)
  let top := tree message (Nat.log2 count + 1) 0 count
  layOut (compress { top with flags := top.flags ||| root }) fun place => 8 * place

end Mend.Digest.Blake3
