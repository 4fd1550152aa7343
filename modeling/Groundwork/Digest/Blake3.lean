/-!
# BLAKE3

The hash function BLAKE3 with its default key and its default length of 32 bytes.  The input is cut
into chunks of 1024 bytes and each chunk into blocks of 64; a chunk is folded block by block, and
chunks are joined by a binary tree whose left subtrees are full.
-/

namespace Groundwork.Blake3

/-- Sixteen words: a block of input, or the state while a block is mixed in. -/
abbrev Words := Vector UInt32 16

/-- Eight words: what a chunk or a subtree is folded into. -/
abbrev Chaining := Vector UInt32 8

/-- The words that every hash starts from. -/
def start : Chaining :=
  #v[0x6A09E667, 0xBB67AE85, 0x3C6EF372, 0xA54FF53A, 0x510E527F, 0x9B05688C, 0x1F83D9AB, 0x5BE0CD19]

def chunkStart : UInt32 := 1
def chunkEnd : UInt32 := 2
def parent : UInt32 := 4
def root : UInt32 := 8

/-- The word turned right by `n` bits. -/
def rotateRight (x n : UInt32) : UInt32 :=
  (x >>> n) ||| (x <<< (32 - n))

/-- Mixes two words into four places of the state. -/
def quarter (s : Words) (a b c d : Fin 16) (x y : UInt32) : Words :=
  let va := s[a] + s[b] + x
  let vd := rotateRight (s[d] ^^^ va) 16
  let vc := s[c] + vd
  let vb := rotateRight (s[b] ^^^ vc) 12
  let va := va + vb + y
  let vd := rotateRight (vd ^^^ va) 8
  let vc := vc + vd
  let vb := rotateRight (vb ^^^ vc) 7
  (((s.set a va).set b vb).set c vc).set d vd

/-- Mixes a block into the columns and then the diagonals of the state. -/
def round (s m : Words) : Words :=
  let s := quarter s 0 4 8 12 m[0] m[1]
  let s := quarter s 1 5 9 13 m[2] m[3]
  let s := quarter s 2 6 10 14 m[4] m[5]
  let s := quarter s 3 7 11 15 m[6] m[7]
  let s := quarter s 0 5 10 15 m[8] m[9]
  let s := quarter s 1 6 11 12 m[10] m[11]
  let s := quarter s 2 7 8 13 m[12] m[13]
  quarter s 3 4 9 14 m[14] m[15]

/-- The order of the block's words in the next round. -/
def permute (m : Words) : Words :=
  #v[m[2], m[6], m[3], m[10], m[7], m[0], m[4], m[13],
     m[1], m[11], m[12], m[5], m[9], m[14], m[15], m[8]]

/-- Runs the remaining rounds. -/
def rounds : Nat → Words → Words → Words
  | 0, s, _ => s
  | n + 1, s, m => rounds n (round s m) (permute m)

/-- A block that waits to be mixed in: the last of a chunk, or a pair of subtrees. -/
structure Output where
  chaining : Chaining
  block : Words
  counter : Nat
  length : UInt32
  flags : UInt32

/-- Mixes the block in. -/
def Output.chain (o : Output) (flags : UInt32) : Chaining :=
  let cv := o.chaining
  let s : Words :=
    #v[cv[0], cv[1], cv[2], cv[3], cv[4], cv[5], cv[6], cv[7],
       start[0], start[1], start[2], start[3],
       o.counter.toUInt32, (o.counter / UInt32.size).toUInt32, o.length, o.flags ||| flags]
  let s := rounds 7 s o.block
  #v[s[0] ^^^ s[8], s[1] ^^^ s[9], s[2] ^^^ s[10], s[3] ^^^ s[11],
     s[4] ^^^ s[12], s[5] ^^^ s[13], s[6] ^^^ s[14], s[7] ^^^ s[15]]

/-- The byte at a place of the input, zero after its end. -/
def byteAt (input : ByteArray) (i : Nat) : UInt32 :=
  if h : i < input.size then input[i].toUInt32 else 0

/-- The four bytes from a place on as a word, the lowest first. -/
def wordAt (input : ByteArray) (i : Nat) : UInt32 :=
  byteAt input i ||| (byteAt input (i + 1) <<< 8) ||| (byteAt input (i + 2) <<< 16)
    ||| (byteAt input (i + 3) <<< 24)

/-- The block from a place on; `stop` is the end of its chunk, and zeros follow it. -/
def blockAt (input : ByteArray) (i : Nat) : Words :=
  Vector.ofFn fun k => wordAt input (i + 4 * k)

/-- Folds the blocks of a chunk from `place` to `stop`, all but the last. -/
def foldBlocks (input : ByteArray) (counter stop : Nat) :
    Nat → Nat → UInt32 → Chaining → Output
  | 0, place, flags, cv =>
    ⟨cv, blockAt input place, counter, (stop - place).toUInt32, flags ||| chunkEnd⟩
  | more + 1, place, flags, cv =>
    let next := Output.chain ⟨cv, blockAt input place, counter, 64, flags⟩ 0
    foldBlocks input counter stop more (place + 64) 0 next

/-- The last block of a chunk, the others folded in. -/
def chunk (input : ByteArray) (counter : Nat) : Output :=
  let place := 1024 * counter
  let stop := min input.size (place + 1024)
  foldBlocks input counter stop ((stop - place - 1) / 64) place chunkStart start

/-- The pair of two subtrees. -/
def pair (left right : Chaining) : Output :=
  let block : Words := Vector.ofFn fun k =>
    if h : k.val < 8 then left[k.val] else right[k.val - 8]
  ⟨start, block, 0, 64, parent⟩

/-- The largest power of two below `n`, for `n` above one. -/
def leftSize (n : Nat) : Nat := Nat.pow 2 (Nat.log2 (n - 1))

theorem leftSize_pos (n : Nat) : 0 < leftSize n := Nat.two_pow_pos _

theorem leftSize_lt {n : Nat} (h : 1 < n) : leftSize n < n := by
  have hle : leftSize n ≤ n - 1 := Nat.log2_self_le (by omega)
  omega

/-- The tree over `count` chunks from the chunk `first` on. -/
def tree (input : ByteArray) (first count : Nat) : Output :=
  if h : 1 < count then
    let left := leftSize count
    have := leftSize_lt h
    have := leftSize_pos count
    pair ((tree input first left).chain 0) ((tree input (first + left) (count - left)).chain 0)
  else
    chunk input first
termination_by count
decreasing_by
  · exact ‹leftSize count < count›
  · exact Nat.sub_lt (Nat.zero_lt_of_lt ‹leftSize count < count›) ‹0 < leftSize count›

/-- The digits of a word in the order of its bytes. -/
def hexWord (x : UInt32) : List Char :=
  (List.range 4).flatMap fun i =>
    let byte := (x.toNat / Nat.pow 256 i) % 256
    [Nat.digitChar (byte / 16), Nat.digitChar (byte % 16)]

/-- The hash of some bytes, in hexadecimal digits. -/
def hex (input : ByteArray) : String :=
  let count := (input.size + 1023) / 1024
  let cv := (tree input 0 count).chain root
  String.ofList (cv.toList.flatMap hexWord)

end Groundwork.Blake3
