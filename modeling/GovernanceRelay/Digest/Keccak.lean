import GovernanceRelay.FixedBytes

/-!
# Keccak-256

The sponge over 25 lanes of 64 bits that takes 136 bytes a block, with the padding byte `0x01`.
Lane `x + 5 * y` of the state stands in column `x` and row `y`.
-/

set_option autoImplicit false

namespace GovernanceRelay.Keccak

/-- The state of the sponge: 25 lanes, row after row. -/
abbrev State := List UInt64

/-- The constants that tell the 24 rounds apart. -/
def roundConstants : List UInt64 := [
  0x0000000000000001, 0x0000000000008082, 0x800000000000808a, 0x8000000080008000,
  0x000000000000808b, 0x0000000080000001, 0x8000000080008081, 0x8000000000008009,
  0x000000000000008a, 0x0000000000000088, 0x0000000080008009, 0x000000008000000a,
  0x000000008000808b, 0x800000000000008b, 0x8000000000008089, 0x8000000000008003,
  0x8000000000008002, 0x8000000000000080, 0x000000000000800a, 0x800000008000000a,
  0x8000000080008081, 0x8000000000008080, 0x0000000080000001, 0x8000000080008008]

/-- How far each lane turns. -/
def offsets : List UInt64 := [
  0, 1, 62, 28, 27,
  36, 44, 6, 55, 20,
  3, 10, 43, 25, 39,
  41, 45, 15, 21, 8,
  18, 2, 61, 56, 14]

/-- A lane turned to the left. -/
def rotateLeft (lane amount : UInt64) : UInt64 :=
  if amount = 0 then lane else (lane <<< amount) ||| (lane >>> (64 - amount))

/-- The lane in a column and a row, both counted round the end. -/
def laneAt (state : State) (x y : Nat) : UInt64 := state.getD (x % 5 + 5 * (y % 5)) 0

/-- The places of the state in order, as column and row. -/
def places : List (Nat × Nat) := (List.range 25).map fun index => (index % 5, index / 5)

/-- Add to each lane the parities of the two columns beside it. -/
def theta (state : State) : State :=
  let parity := (List.range 5).map fun x =>
    laneAt state x 0 ^^^ laneAt state x 1 ^^^ laneAt state x 2 ^^^ laneAt state x 3
      ^^^ laneAt state x 4
  let change := (List.range 5).map fun x =>
    parity.getD ((x + 4) % 5) 0 ^^^ rotateLeft (parity.getD ((x + 1) % 5) 0) 1
  (state.zip (change ++ change ++ change ++ change ++ change)).map fun pair => pair.1 ^^^ pair.2

/-- Turn each lane by its own amount. -/
def rho (state : State) : State :=
  (state.zip offsets).map fun pair => rotateLeft pair.1 pair.2

/-- Move the lanes to their new places. -/
def pi (state : State) : State :=
  places.map fun place => laneAt state (place.1 + 3 * place.2) place.1

/-- Combine each lane with the next two of its row. -/
def chi (state : State) : State :=
  places.map fun place =>
    laneAt state place.1 place.2
      ^^^ (~~~ laneAt state (place.1 + 1) place.2 &&& laneAt state (place.1 + 2) place.2)

/-- Add a round constant to the first lane. -/
def iota (constant : UInt64) : State → State
  | [] => []
  | lane :: rest => (lane ^^^ constant) :: rest

/-- The permutation of the state, all 24 rounds. -/
def permute (state : State) : State :=
  roundConstants.foldl (fun state constant => iota constant (chi (pi (rho (theta state))))) state

/-- The number of bytes that one block brings in. -/
def rate : Nat := 136

/-- Add a block to the front of the state and permute. -/
def absorb (state : State) (block : Bytes) : State :=
  let words := (Bytes.blocks 8 block).map fun word => UInt64.ofNat (Bytes.littleValue word)
  permute ((state.zip (words ++ List.replicate 8 0)).map fun pair => pair.1 ^^^ pair.2)

/-- The bytes that fill a message up to a whole number of blocks. -/
def padding (length : Nat) : Bytes :=
  let gap := rate - length % rate
  if gap = 1 then [0x81] else 0x01 :: (List.replicate (gap - 2) 0 ++ [0x80])

/-- The first four lanes as bytes, each with its least significant byte first. -/
def squeeze (state : State) : Bytes :=
  (state.take 4).flatMap fun lane => Bytes.littleEndian 8 lane.toNat

end GovernanceRelay.Keccak

namespace GovernanceRelay

/-- The Keccak-256 digest of a byte string. -/
def keccak256 (message : Bytes) : Digest :=
  let blocks := Bytes.blocks Keccak.rate (message ++ Keccak.padding message.length)
  FixedBytes.fit (Keccak.squeeze (blocks.foldl Keccak.absorb (List.replicate 25 0)))

end GovernanceRelay
