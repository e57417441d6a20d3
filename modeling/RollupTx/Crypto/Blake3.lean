import RollupTx.Bytes.BigEndian

/-!
# BLAKE3

The 32-byte BLAKE3 hash of a byte sequence. The input is cut into chunks of 1024 bytes and
each chunk into blocks of 64 bytes; a block is mixed into an eight-word chaining value by
the compression function (seven rounds of the quarter-round `g`, the message words permuted
between rounds). Chunk chaining values are joined pairwise in a left-balanced binary tree:
a tree over `n > 1` chunks puts the largest power of two below `n` chunks on its left. The
node at the root carries the root flag, and the hash is the first eight words of its output,
little-endian.
-/

namespace RollupTx.Blake3

/-- The initial chaining value, shared with SHA-256. -/
def iv : Array UInt32 :=
  #[0x6A09E667, 0xBB67AE85, 0x3C6EF372, 0xA54FF53A, 0x510E527F, 0x9B05688C, 0x1F83D9AB,
    0x5BE0CD19]

/-- The order in which message words are taken in the next round. -/
def permutation : Array Nat := #[2, 6, 3, 10, 7, 0, 4, 13, 1, 11, 12, 5, 9, 14, 15, 8]

/-- Domain flags of a compression. -/
def chunkStart : UInt32 := 1
def chunkEnd : UInt32 := 2
def parent : UInt32 := 4
def root : UInt32 := 8

/-- Bytes in a block and in a chunk. -/
def blockBytes : Nat := 64
def chunkBytes : Nat := 1024

def rotr (x n : UInt32) : UInt32 := (x >>> n) ||| (x <<< (32 - n))

/-- The quarter-round on state words `a b c d` with message words `x y`. -/
def g (s : Array UInt32) (a b c d : Nat) (x y : UInt32) : Array UInt32 :=
  let va := s.getD a 0 + s.getD b 0 + x
  let vd := rotr (s.getD d 0 ^^^ va) 16
  let vc := s.getD c 0 + vd
  let vb := rotr (s.getD b 0 ^^^ vc) 12
  let va := va + vb + y
  let vd := rotr (vd ^^^ va) 8
  let vc := vc + vd
  let vb := rotr (vb ^^^ vc) 7
  ((s.set! a va).set! b vb |>.set! c vc).set! d vd

/-- The quarter-rounds of a round: four on the columns, then four on the diagonals, each as
the state positions `a b c d` and the message positions of `x y`. -/
def quarterRounds : List (Nat × Nat × Nat × Nat × Nat × Nat) :=
  [(0, 4, 8, 12, 0, 1), (1, 5, 9, 13, 2, 3), (2, 6, 10, 14, 4, 5), (3, 7, 11, 15, 6, 7),
    (0, 5, 10, 15, 8, 9), (1, 6, 11, 12, 10, 11), (2, 7, 8, 13, 12, 13), (3, 4, 9, 14, 14, 15)]

/-- One round: the quarter-rounds in order. -/
def round (s : Array UInt32) (m : Array UInt32) : Array UInt32 :=
  quarterRounds.foldl (fun s (a, b, c, d, i, j) => g s a b c d (m.getD i 0) (m.getD j 0)) s

/-- The message words in the order of the next round. -/
def permute (m : Array UInt32) : Array UInt32 :=
  permutation.map fun i => m.getD i 0

/-- The sixteen output words of one compression. -/
def compress (cv : Array UInt32) (block : Array UInt32) (counter : Nat) (len : Nat)
    (flags : UInt32) : Array UInt32 :=
  let s0 := cv ++ iv.extract 0 4 ++
    #[UInt32.ofNat (counter % 2 ^ 32), UInt32.ofNat (counter / 2 ^ 32 % 2 ^ 32),
      UInt32.ofNat len, flags]
  let (s, _) := (List.range 7).foldl (fun (s, m) _ => (round s m, permute m)) (s0, block)
  (List.range 16).toArray.map fun i =>
    if i < 8 then s.getD i 0 ^^^ s.getD (i + 8) 0 else s.getD i 0 ^^^ cv.getD (i - 8) 0

/-- The little-endian words of a block of up to 64 bytes, padded with zeros. -/
def blockWords (bs : List UInt8) : Array UInt32 :=
  let bs := bs ++ List.replicate (blockBytes - bs.length) 0
  (List.range 16).toArray.map fun i =>
    ((bs.drop (4 * i)).take 4).foldr (fun b acc => (acc <<< 8) ||| b.toUInt32) 0

/-- The little-endian bytes of some words. -/
def wordsBytes (ws : Array UInt32) : List UInt8 :=
  ws.toList.flatMap fun (w : UInt32) =>
    (List.range 4).map fun (i : Nat) => (w >>> (8 * i.toUInt32)).toUInt8

/-- The blocks of a chunk; an empty chunk has one empty block. -/
def chunkBlocks (chunk : List UInt8) : List (List UInt8) :=
  if chunk.isEmpty then [[]]
  else (List.range ((chunk.length + blockBytes - 1) / blockBytes)).map
    fun i => (chunk.drop (blockBytes * i)).take blockBytes

/-- The output of a chunk with index `counter`: all blocks but the last give the chaining
value for the next, and the last block's compression is the chunk's output. -/
def chunkOutput (chunk : List UInt8) (counter : Nat) (rootFlag : UInt32) : Array UInt32 :=
  let blocks := chunkBlocks chunk
  let n := blocks.length
  let (_, out) := blocks.zipIdx.foldl
    (fun (cv, _) (b, i) =>
      let flags := (if i = 0 then chunkStart else 0) |||
        (if i + 1 = n then chunkEnd ||| rootFlag else 0)
      let out := compress cv (blockWords b) counter b.length flags
      (out.extract 0 8, out))
    (iv, #[])
  out

/-- The largest power of two strictly below `n`, for `n ≥ 2`. -/
def leftChunks (n : Nat) : Nat :=
  2 ^ Nat.log2 (n - 1)

theorem leftChunks_pos (n : Nat) : 0 < leftChunks n :=
  Nat.two_pow_pos _

theorem leftChunks_lt {n : Nat} (h : 2 ≤ n) : leftChunks n < n := by
  have : 2 ^ Nat.log2 (n - 1) ≤ n - 1 := Nat.log2_self_le (by omega)
  simp only [leftChunks]
  omega

/-- The output of the subtree over `chunks`, the first having index `first`. -/
def treeOutput (chunks : List (List UInt8)) (first : Nat) (rootFlag : UInt32) : Array UInt32 :=
  if h : chunks.length ≤ 1 then chunkOutput (chunks.headD []) first rootFlag
  else
    let k := leftChunks chunks.length
    have hk : k < chunks.length := leftChunks_lt (by omega)
    have hk0 : 0 < k := leftChunks_pos _
    let left := (treeOutput (chunks.take k) first 0).extract 0 8
    let right := (treeOutput (chunks.drop k) (first + k) 0).extract 0 8
    compress iv (left ++ right) 0 blockBytes (parent ||| rootFlag)
termination_by chunks.length
decreasing_by
  all_goals simp only [List.length_take, List.length_drop]
  all_goals omega

/-- The chunks of the input; an empty input has one empty chunk. -/
def chunks (bs : List UInt8) : List (List UInt8) :=
  if bs.isEmpty then [[]]
  else (List.range ((bs.length + chunkBytes - 1) / chunkBytes)).map
    fun i => (bs.drop (chunkBytes * i)).take chunkBytes

def hash (bs : List UInt8) : List UInt8 :=
  wordsBytes ((treeOutput (chunks bs) 0 root).extract 0 8)

theorem size_compress (cv block : Array UInt32) (counter len : Nat) (flags : UInt32) :
    (compress cv block counter len flags).size = 16 := by
  simp [compress]

theorem chunkBlocks_ne_nil (chunk : List UInt8) : chunkBlocks chunk ≠ [] := by
  unfold chunkBlocks
  split
  · simp
  · rename_i h
    have : 0 < chunk.length := by
      cases chunk with
      | nil => simp at h
      | cons _ _ => simp
    simp [blockBytes]
    omega

theorem size_chunkOutput (chunk : List UInt8) (counter : Nat) (rootFlag : UInt32) :
    (chunkOutput chunk counter rootFlag).size = 16 := by
  have last : ∀ (l : List (List UInt8 × Nat)) (f : Array UInt32 × Array UInt32 →
      List UInt8 × Nat → Array UInt32 × Array UInt32),
      (∀ acc x, (f acc x).2.size = 16) → l ≠ [] → ∀ acc, (l.foldl f acc).2.size = 16 := by
    intro l f hf
    induction l with
    | nil => intro h; exact absurd rfl h
    | cons x l ih =>
      intro _ acc
      cases l with
      | nil => exact hf acc x
      | cons y l => exact ih (by simp) (f acc x)
  unfold chunkOutput
  exact last _ _ (by intro acc x; simp [size_compress])
    (by simpa using chunkBlocks_ne_nil chunk) _

theorem size_treeOutput (chunks : List (List UInt8)) (first : Nat) (rootFlag : UInt32) :
    (treeOutput chunks first rootFlag).size = 16 := by
  rw [treeOutput]
  split
  · exact size_chunkOutput _ _ _
  · exact size_compress _ _ _ _ _

theorem length_wordsBytes (ws : Array UInt32) : (wordsBytes ws).length = 4 * ws.size := by
  simp [wordsBytes, List.length_flatMap, List.map_const', Nat.mul_comm]

theorem length_hash (bs : List UInt8) : (hash bs).length = 32 := by
  rw [hash, length_wordsBytes, Array.size_extract, size_treeOutput]
  rfl

end RollupTx.Blake3
