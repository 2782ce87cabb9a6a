import GovernanceRelay.Bytes
import GovernanceRelay.OrderedMap

/-!
# Byte strings of a fixed length

Addresses, selectors and digests are byte strings of 20, 4 and 32 bytes. The length is part of the
type, so equality is equality of the bytes (`FixedBytes.ext`) and the order is that of the numbers
the bytes spell, most significant byte first, which is the order of the bytes from the front
(`FixedBytes.rank_lt_rank_iff`). Where it must not show how far two byte strings agree, they are
compared to the end whatever comes first (`FixedBytes.agrees_iff`).
-/

set_option autoImplicit false

namespace GovernanceRelay

/-- A byte string of exactly `length` bytes. -/
structure FixedBytes (length : Nat) where
  /-- The bytes in order. -/
  bytes : Bytes
  /-- There are as many as the type says. -/
  length_bytes : bytes.length = length

/-- An account or contract, on any chain. -/
abbrev Address := FixedBytes 20

/-- The name of a function inside a contract. -/
abbrev Selector := FixedBytes 4

/-- The output of a 256-bit hash function. -/
abbrev Digest := FixedBytes 32

namespace FixedBytes

variable {length : Nat}

/-- Equal bytes make equal byte strings. -/
theorem ext {left right : FixedBytes length} (bytes_eq : left.bytes = right.bytes) :
    left = right := by
  cases left; cases right; cases bytes_eq; rfl

instance : DecidableEq (FixedBytes length) := fun left right =>
  if h : left.bytes = right.bytes then isTrue (ext h) else isFalse fun heq => h (heq ▸ rfl)

instance : Ranked (FixedBytes length) where
  rank name := Bytes.value name.bytes
  rank_injective left right rank_eq :=
    ext (Bytes.eq_of_value_eq (left.length_bytes.trans right.length_bytes.symm) rank_eq)

/-- A byte string of the right length. -/
def ofBytes? (bytes : Bytes) : Option (FixedBytes length) :=
  if h : bytes.length = length then some ⟨bytes, h⟩ else none

/-- One byte over and over. -/
def replicate (byte : UInt8) : FixedBytes length :=
  ⟨List.replicate length byte, List.length_replicate⟩

/-- All bytes zero. -/
def zero : FixedBytes length := replicate 0

instance : Inhabited (FixedBytes length) := ⟨zero⟩

/-- The front of a byte string, filled up with zeros where it is too short. -/
def fit (bytes : Bytes) : FixedBytes length :=
  ⟨(bytes ++ List.replicate length 0).take length, by simp⟩

/-- Whether all bytes are zero. -/
def isZero (name : FixedBytes length) : Bool := name = zero

/-- Whether two byte strings agree; every byte is looked at, wherever the first difference is. -/
def agrees (left right : FixedBytes length) : Bool :=
  (left.bytes.zip right.bytes).foldl (fun seen pair => seen ||| (pair.1 ^^^ pair.2)) 0 == 0

/-- The first bytes of a longer byte string, and what follows them. -/
def split? (bytes : Bytes) : Option (FixedBytes length × Bytes) :=
  (ofBytes? (bytes.take length)).map fun name => (name, bytes.drop length)

/-- Of two byte strings the one with the smaller number stands first from the front. -/
theorem rank_lt_rank_iff (left right : FixedBytes length) :
    rank left < rank right ↔ left.bytes < right.bytes :=
  Bytes.value_lt_value_iff (left.length_bytes.trans right.length_bytes.symm)

/-- The differences seen are none exactly if there were none before and all pairs are equal. -/
theorem foldl_differences_eq_zero_iff (seen : UInt8) (pairs : List (UInt8 × UInt8)) :
    pairs.foldl (fun seen pair => seen ||| (pair.1 ^^^ pair.2)) seen = 0 ↔
      seen = 0 ∧ ∀ pair ∈ pairs, pair.1 = pair.2 := by
  induction pairs generalizing seen with
  | nil => simp
  | cons pair rest ih =>
    rw [List.foldl_cons, ih, UInt8.or_eq_zero_iff, UInt8.xor_eq_zero_iff, List.forall_mem_cons,
      and_assoc]

/-- Byte strings agree exactly if they are equal. -/
theorem agrees_iff (left right : FixedBytes length) : left.agrees right = true ↔ left = right := by
  rw [agrees, beq_iff_eq, foldl_differences_eq_zero_iff]
  constructor
  · rintro ⟨-, hpairs⟩
    have hlength : left.bytes.length = right.bytes.length :=
      left.length_bytes.trans right.length_bytes.symm
    refine ext (List.ext_getElem hlength fun index hleft hright => ?_)
    have hindex : index < (left.bytes.zip right.bytes).length := by
      rw [List.length_zip, ← hlength, Nat.min_self]
      exact hleft
    have hpair := hpairs _ (List.getElem_mem hindex)
    rwa [List.getElem_zip] at hpair
  · rintro rfl
    refine ⟨rfl, fun pair hmem => ?_⟩
    obtain ⟨index, hindex, rfl⟩ := List.mem_iff_getElem.mp hmem
    rw [List.getElem_zip]

theorem ofBytes?_bytes (name : FixedBytes length) : ofBytes? name.bytes = some name := by
  simp [ofBytes?, name.length_bytes]

theorem bytes_of_ofBytes? {bytes : Bytes} {name : FixedBytes length}
    (h : ofBytes? bytes = some name) : name.bytes = bytes := by
  unfold ofBytes? at h
  split at h
  · exact (Option.some.inj h) ▸ rfl
  · cases h

/-- A byte string splits at the end of a name it starts with. -/
theorem split?_append (name : FixedBytes length) (rest : Bytes) :
    split? (name.bytes ++ rest) = some (name, rest) := by
  have htake : (name.bytes ++ rest).take length = name.bytes := by
    simp [name.length_bytes]
  have hdrop : (name.bytes ++ rest).drop length = rest := by
    simp [name.length_bytes]
  simp [split?, htake, hdrop, ofBytes?_bytes]

/-- What splits off a byte string stands at its front. -/
theorem append_of_split? {bytes rest : Bytes} {name : FixedBytes length}
    (h : split? bytes = some (name, rest)) : bytes = name.bytes ++ rest := by
  obtain ⟨head, hhead, heq⟩ := Option.map_eq_some_iff.mp h
  cases heq
  rw [bytes_of_ofBytes? hhead, List.take_append_drop]

end FixedBytes

end GovernanceRelay
