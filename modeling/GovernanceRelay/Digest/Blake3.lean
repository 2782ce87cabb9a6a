import GovernanceRelay.FixedBytes

/-!
# BLAKE3

A message is cut into chunks of 1024 bytes, each chunk into blocks of 64 bytes. Chunks are the
leaves of a binary tree whose left subtrees are complete and as large as possible, and every node
is an application of one compression function; the root's output is the digest.
-/

set_option autoImplicit false

namespace GovernanceRelay.Blake3

/-- The words that a hash starts from. -/
def initial : List UInt32 := [
  0x6a09e667, 0xbb67ae85, 0x3c6ef372, 0xa54ff53a, 0x510e527f, 0x9b05688c, 0x1f83d9ab, 0x5be0cd19]

/-- The order in which each round takes the words of the one before. -/
def schedule : List Nat := [2, 6, 3, 10, 7, 0, 4, 13, 1, 11, 12, 5, 9, 14, 15, 8]

/-- A word turned to the right. -/
def rotateRight (word amount : UInt32) : UInt32 :=
  (word >>> amount) ||| (word <<< (32 - amount))

/-- Four words mixed with two words of the message. -/
def quarter (a b c d x y : UInt32) : UInt32 × UInt32 × UInt32 × UInt32 :=
  let a := a + b + x
  let d := rotateRight (d ^^^ a) 16
  let c := c + d
  let b := rotateRight (b ^^^ c) 12
  let a := a + b + y
  let d := rotateRight (d ^^^ a) 8
  let c := c + d
  let b := rotateRight (b ^^^ c) 7
  (a, b, c, d)

/-- Four rows of four words each. -/
structure Rows where
  (a0 a1 a2 a3 : UInt32)
  (b0 b1 b2 b3 : UInt32)
  (c0 c1 c2 c3 : UInt32)
  (d0 d1 d2 d3 : UInt32)

/-- One round: the four columns, then the four diagonals, with the sixteen words of the message. -/
def round (rows : Rows) (message : List UInt32) : Rows :=
  let word (index : Nat) := message.getD index 0
  let (a0, b0, c0, d0) := quarter rows.a0 rows.b0 rows.c0 rows.d0 (word 0) (word 1)
  let (a1, b1, c1, d1) := quarter rows.a1 rows.b1 rows.c1 rows.d1 (word 2) (word 3)
  let (a2, b2, c2, d2) := quarter rows.a2 rows.b2 rows.c2 rows.d2 (word 4) (word 5)
  let (a3, b3, c3, d3) := quarter rows.a3 rows.b3 rows.c3 rows.d3 (word 6) (word 7)
  let (a0, b1, c2, d3) := quarter a0 b1 c2 d3 (word 8) (word 9)
  let (a1, b2, c3, d0) := quarter a1 b2 c3 d0 (word 10) (word 11)
  let (a2, b3, c0, d1) := quarter a2 b3 c0 d1 (word 12) (word 13)
  let (a3, b0, c1, d2) := quarter a3 b0 c1 d2 (word 14) (word 15)
  ⟨a0, a1, a2, a3, b0, b1, b2, b3, c0, c1, c2, c3, d0, d1, d2, d3⟩

/-- A number of rounds, the message reordered between them. -/
def rounds : Nat → Rows → List UInt32 → Rows
  | 0, rows, _ => rows
  | count + 1, rows, message =>
    rounds count (round rows message) (schedule.map fun index => message.getD index 0)

/-- Everything that one application of the compression function takes. -/
structure Node where
  /-- The eight words carried along. -/
  chaining : List UInt32
  /-- The block, at most 64 bytes. -/
  block : Bytes
  /-- The position of the chunk. -/
  counter : Nat
  /-- What the block is. -/
  flags : UInt32

/-- The flag of the first block of a chunk. -/
def chunkStart : UInt32 := 1

/-- The flag of the last block of a chunk. -/
def chunkEnd : UInt32 := 2

/-- The flag of a node with two subtrees. -/
def parent : UInt32 := 4

/-- The flag of the node that gives the digest. -/
def root : UInt32 := 8

/-- The eight words that the compression function gives. -/
def Node.compress (node : Node) : List UInt32 :=
  let carried (index : Nat) := node.chaining.getD index 0
  let start (index : Nat) := initial.getD index 0
  let message := (Bytes.blocks 4 node.block).map fun word => UInt32.ofNat (Bytes.littleValue word)
  let rows := rounds 7
    ⟨carried 0, carried 1, carried 2, carried 3, carried 4, carried 5, carried 6, carried 7,
      start 0, start 1, start 2, start 3, UInt32.ofNat node.counter,
      UInt32.ofNat (node.counter / UInt32.size), UInt32.ofNat node.block.length, node.flags⟩
    message
  [rows.a0 ^^^ rows.c0, rows.a1 ^^^ rows.c1, rows.a2 ^^^ rows.c2, rows.a3 ^^^ rows.c3,
    rows.b0 ^^^ rows.d0, rows.b1 ^^^ rows.d1, rows.b2 ^^^ rows.d2, rows.b3 ^^^ rows.d3]

/-- The last node of a chunk, given the words and the flags that its next block starts with. -/
def chunkNode (counter : Nat) (chaining : List UInt32) (flags : UInt32) : List Bytes → Node
  | [] => ⟨chaining, [], counter, flags ||| chunkEnd⟩
  | [block] => ⟨chaining, block, counter, flags ||| chunkEnd⟩
  | block :: rest => chunkNode counter (Node.compress ⟨chaining, block, counter, flags⟩) 0 rest

/-- The node above two subtrees. -/
def parentNode (left right : Node) : Node :=
  ⟨initial,
    (left.compress ++ right.compress).flatMap fun word => Bytes.littleEndian 4 word.toNat,
    0, parent⟩

/-- The node of a run of chunks that begins at a position; the left part takes as many chunks as the
largest power of two below their number. -/
def subtree : Nat → Nat → List Bytes → Node
  | 0, counter, _ => chunkNode counter initial chunkStart []
  | _ + 1, counter, [] => chunkNode counter initial chunkStart []
  | _ + 1, counter, [chunk] => chunkNode counter initial chunkStart (Bytes.blocks 64 chunk)
  | depth + 1, counter, chunks =>
    let left := Nat.pow 2 (Nat.log2 (chunks.length - 1))
    parentNode (subtree depth counter (chunks.take left))
      (subtree depth (counter + left) (chunks.drop left))

end GovernanceRelay.Blake3

namespace GovernanceRelay

/-- The BLAKE3 digest of a byte string. -/
def blake3 (message : Bytes) : Digest :=
  let chunks := Bytes.blocks 1024 message
  let top := Blake3.subtree (chunks.length + 1) 0 chunks
  let words := Blake3.Node.compress
    { top with counter := 0, flags := top.flags ||| Blake3.root }
  FixedBytes.fit (words.flatMap fun word => Bytes.littleEndian 4 word.toNat)

end GovernanceRelay
