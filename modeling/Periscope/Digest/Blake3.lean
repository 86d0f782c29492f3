/-!
# The hash BLAKE3

The hash of a byte string, 32 bytes long. The bytes are cut into chunks of 1024, each chunk is hashed
block by block, and the chunks are the leaves of a binary tree whose left side is always complete.
-/

namespace Periscope.Blake3

/-- The words of a block or of the state of the compression function. -/
abbrev Words := Vector UInt32 16

/-- A chaining value. -/
abbrev Chain := Vector UInt32 8

/-- The initial chaining value. -/
def initial : Chain :=
  #v[0x6A09E667, 0xBB67AE85, 0x3C6EF372, 0xA54FF53A, 0x510E527F, 0x9B05688C, 0x1F83D9AB, 0x5BE0CD19]

/-- Rotates a word to the right. -/
def rotateRight (x n : UInt32) : UInt32 := (x >>> n) ||| (x <<< (32 - n))

/-- Mixes two words of a block into four words of the state. -/
def mix (s : Words) (a b c d : Fin 16) (x y : UInt32) : Words :=
  let va := s[a] + s[b] + x
  let vd := rotateRight (s[d] ^^^ va) 16
  let vc := s[c] + vd
  let vb := rotateRight (s[b] ^^^ vc) 12
  let va := va + vb + y
  let vd := rotateRight (vd ^^^ va) 8
  let vc := vc + vd
  let vb := rotateRight (vb ^^^ vc) 7
  (((s.set a va).set b vb).set c vc).set d vd

/-- One round: the columns of the state, then its diagonals. -/
def round (s m : Words) : Words :=
  let s := mix s 0 4 8 12 m[0] m[1]
  let s := mix s 1 5 9 13 m[2] m[3]
  let s := mix s 2 6 10 14 m[4] m[5]
  let s := mix s 3 7 11 15 m[6] m[7]
  let s := mix s 0 5 10 15 m[8] m[9]
  let s := mix s 1 6 11 12 m[10] m[11]
  let s := mix s 2 7 8 13 m[12] m[13]
  mix s 3 4 9 14 m[14] m[15]

/-- The order in which the next round takes the words of the block. -/
def permute (m : Words) : Words :=
  #v[m[2], m[6], m[3], m[10], m[7], m[0], m[4], m[13], m[1], m[11], m[12], m[5], m[9], m[14], m[15],
    m[8]]

/-- The given number of rounds. -/
def rounds : Nat → Words → Words → Words
  | 0, s, _ => s
  | n + 1, s, m => rounds n (round s m) (permute m)

/-- A node of the tree, ready to be compressed. -/
structure Node where
  chain : Chain
  block : Words
  counter : UInt64
  length : UInt32
  flags : UInt32

/-- The first eight words that compressing a node gives. -/
def Node.compress (n : Node) (extra : UInt32) : Chain :=
  let h := n.chain
  let s : Words :=
    #v[h[0], h[1], h[2], h[3], h[4], h[5], h[6], h[7], initial[0], initial[1], initial[2], initial[3],
      n.counter.toUInt32, (n.counter >>> 32).toUInt32, n.length, n.flags ||| extra]
  let s := rounds 7 s n.block
  Vector.ofFn fun i : Fin 8 => s[i.val] ^^^ s[i.val + 8]

/-- The flag of the first block of a chunk. -/
def chunkStart : UInt32 := 1

/-- The flag of the last block of a chunk. -/
def chunkEnd : UInt32 := 2

/-- The flag of an inner node. -/
def parentFlag : UInt32 := 4

/-- The flag of the root. -/
def rootFlag : UInt32 := 8

/-- The word that four bytes make, the lowest first. -/
def wordAt (bytes : Array UInt8) (i : Nat) : UInt32 :=
  let byte (k : Nat) : UInt32 := ((bytes[4 * i + k]?).getD 0).toUInt32
  byte 0 ||| (byte 1 <<< 8) ||| (byte 2 <<< 16) ||| (byte 3 <<< 24)

/-- The words of a block of at most 64 bytes, filled up with zeros. -/
def blockWords (bytes : List UInt8) : Words :=
  let a := bytes.toArray
  Vector.ofFn fun i : Fin 16 => wordAt a i.val

/-- Cuts a list into parts of `n + 1` items; the last part may be shorter. -/
def partsOf (n : Nat) : Nat → List UInt8 → List (List UInt8)
  | 0, _ => []
  | bound + 1, bytes =>
    if bytes.length ≤ n + 1 then [bytes]
    else bytes.take (n + 1) :: partsOf n bound (bytes.drop (n + 1))

/-- The node of a chunk that still holds the given blocks. -/
def chunkNode (counter : UInt64) (chain : Chain) (flags : UInt32) : List (List UInt8) → Node
  | [] => ⟨chain, blockWords [], counter, 0, flags ||| chunkEnd⟩
  | [block] =>
    ⟨chain, blockWords block, counter, UInt32.ofNat block.length, flags ||| chunkEnd⟩
  | block :: rest =>
    let node : Node := ⟨chain, blockWords block, counter, 64, flags⟩
    chunkNode counter (node.compress 0) 0 rest

/-- The node of one chunk. -/
def leaf (counter : Nat) (chunk : List UInt8) : Node :=
  chunkNode (UInt64.ofNat counter) initial chunkStart (partsOf 63 17 chunk)

/-- The greatest power of two below `n`, for `n` at least two. -/
def leftSize (n : Nat) : Nat := Nat.pow 2 (n - 1).log2

/-- The node over the chunks, the first of which has the given number. `bound` is a bound on the depth of
the tree. -/
def tree (counter : Nat) : Nat → List (List UInt8) → Node
  | 0, chunks => leaf counter chunks.flatten
  | bound + 1, chunks =>
    if chunks.length ≤ 1 then leaf counter chunks.flatten
    else
      let k := leftSize chunks.length
      let left := (tree counter bound (chunks.take k)).compress 0
      let right := (tree (counter + k) bound (chunks.drop k)).compress 0
      { chain := initial
        block := left ++ right
        counter := 0
        length := 64
        flags := parentFlag }

/-- The hash of a byte string, as words. -/
def hash (bytes : List UInt8) : Chain :=
  let chunks := partsOf 1023 (bytes.length + 1) bytes
  (tree 0 (chunks.length + 1) chunks).compress rootFlag

/-- The two hexadecimal digits of a byte. -/
def hexByte (b : UInt8) : List Char :=
  [Nat.digitChar (b.toNat / 16), Nat.digitChar (b.toNat % 16)]

/-- The four bytes of a word, the lowest first. -/
def wordBytes (w : UInt32) : List UInt8 :=
  [w.toUInt8, (w >>> 8).toUInt8, (w >>> 16).toUInt8, (w >>> 24).toUInt8]

/-- The hash of a byte string in hexadecimal digits. -/
def hexHash (bytes : List UInt8) : String :=
  String.ofList (((hash bytes).toList.flatMap wordBytes).flatMap hexByte)

end Periscope.Blake3
