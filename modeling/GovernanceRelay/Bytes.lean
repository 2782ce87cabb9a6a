/-!
# Byte strings and fixed-width numbers

A byte string is a list of bytes. A number of fixed width is written with its most significant
byte first (`Bytes.bigEndian`) or last (`Bytes.littleEndian`), and `Bytes.value` reads the first
of these back. A width and a number below `256 ^ width` determine the bytes and the bytes determine
the number (`value_bigEndian`, `bigEndian_value`), so byte strings of one length are ordered by
their values, which is to compare them from the front (`value_lt_value_iff`).
-/

set_option autoImplicit false

namespace GovernanceRelay

/-- A byte string. -/
abbrev Bytes := List UInt8

namespace Bytes

/-- The number that a byte string spells, most significant byte first. -/
def value (bytes : Bytes) : Nat :=
  bytes.foldl (fun total byte => total * 256 + byte.toNat) 0

/-- The last `width` base-256 digits of a number, most significant first. -/
def bigEndian : Nat → Nat → Bytes
  | 0, _ => []
  | width + 1, number => bigEndian width (number / 256) ++ [UInt8.ofNat number]

/-- The last `width` base-256 digits of a number, least significant first. -/
def littleEndian (width number : Nat) : Bytes :=
  (bigEndian width number).reverse

/-- The number that a byte string spells, least significant byte first. -/
def littleValue (bytes : Bytes) : Nat :=
  value bytes.reverse

/-- Consecutive blocks of a size, the last of which may be shorter; at most `count` of them. -/
def blocksUpTo (size : Nat) : Nat → Bytes → List Bytes
  | 0, _ => []
  | count + 1, bytes =>
    if bytes.isEmpty then [] else bytes.take size :: blocksUpTo size count (bytes.drop size)

/-- A byte string cut into consecutive blocks of a size, the last of which may be shorter. -/
def blocks (size : Nat) (bytes : Bytes) : List Bytes :=
  blocksUpTo size (bytes.length / size + 1) bytes

@[simp] theorem value_nil : value [] = 0 := rfl

/-- The last byte counts once and everything before it 256 times. -/
theorem value_concat (bytes : Bytes) (byte : UInt8) :
    value (bytes ++ [byte]) = value bytes * 256 + byte.toNat := by
  simp [value, List.foldl_append]

@[simp] theorem length_bigEndian (width number : Nat) :
    (bigEndian width number).length = width := by
  induction width generalizing number with
  | zero => rfl
  | succ width ih => simp [bigEndian, ih]

@[simp] theorem length_littleEndian (width number : Nat) :
    (littleEndian width number).length = width := by
  simp [littleEndian]

/-- Writing keeps the number up to the capacity of the width. -/
theorem value_bigEndian_mod (width number : Nat) :
    value (bigEndian width number) = number % Nat.pow 256 width := by
  induction width generalizing number with
  | zero => simp [bigEndian, Nat.mod_one]
  | succ width ih =>
    rw [bigEndian, value_concat, ih, UInt8.toNat_ofNat']
    show _ = number % (Nat.pow 256 width * 256)
    rw [Nat.mul_comm (Nat.pow 256 width) 256, Nat.mod_mul]
    omega

/-- A number that fits the width is read back. -/
theorem value_bigEndian {width number : Nat} (fits : number < Nat.pow 256 width) :
    value (bigEndian width number) = number := by
  rw [value_bigEndian_mod, Nat.mod_eq_of_lt fits]

/-- A number that fits the width is read back from its reversed bytes too. -/
theorem littleValue_littleEndian {width number : Nat} (fits : number < Nat.pow 256 width) :
    littleValue (littleEndian width number) = number := by
  rw [littleValue, littleEndian, List.reverse_reverse, value_bigEndian fits]

/-- The value of a byte string is below the capacity of its length. -/
theorem value_lt (bytes : Bytes) : value bytes < Nat.pow 256 bytes.length := by
  induction h : bytes.length generalizing bytes with
  | zero => simp [List.length_eq_zero_iff.mp h]
  | succ n ih =>
    have hne : bytes ≠ [] := by intro hnil; simp [hnil] at h
    have hsplit := List.dropLast_concat_getLast hne
    have hlen : bytes.dropLast.length = n := by simp [h]
    rw [← hsplit, value_concat]
    show _ < Nat.pow 256 n * 256
    have hrec := ih bytes.dropLast hlen
    have hbyte := (bytes.getLast hne).toNat_lt
    omega

/-- The first byte counts as often as all numbers of the remaining length. -/
theorem value_cons (byte : UInt8) (bytes : Bytes) :
    value (byte :: bytes) = byte.toNat * Nat.pow 256 bytes.length + value bytes := by
  have from_here : ∀ total : Nat,
      bytes.foldl (fun total byte => total * 256 + byte.toNat) total =
        total * Nat.pow 256 bytes.length + value bytes := by
    unfold value
    induction bytes with
    | nil => intro total; simp
    | cons next rest ih =>
      intro total
      rw [List.foldl_cons, List.foldl_cons, ih, ih (0 * 256 + next.toNat), List.length_cons]
      show _ = total * (Nat.pow 256 rest.length * 256) + _
      rw [Nat.add_mul, Nat.mul_assoc, Nat.mul_comm 256, Nat.zero_mul, Nat.zero_add, Nat.add_assoc]
  rw [value, List.foldl_cons, from_here, Nat.zero_mul, Nat.zero_add]

/-- Byte strings of one length have their values in the order in which they stand from the front. -/
theorem value_lt_value_iff {left right : Bytes} (length_eq : left.length = right.length) :
    value left < value right ↔ left < right := by
  induction left generalizing right with
  | nil =>
    rw [List.length_eq_zero_iff.mp length_eq.symm]
    simp
  | cons lhead ltail ih =>
    cases right with
    | nil => cases length_eq
    | cons rhead rtail =>
      have htail : ltail.length = rtail.length := Nat.succ.inj length_eq
      have hleft := value_lt ltail
      have hright := value_lt rtail
      rw [List.cons_lt_cons_iff, value_cons, value_cons, ← ih htail, UInt8.lt_iff_toNat_lt,
        ← UInt8.toNat_inj]
      rw [htail] at hleft ⊢
      generalize Nat.pow 256 rtail.length = capacity at hleft hright
      -- what stands behind the first bytes is below one unit of the first byte
      rcases Nat.lt_trichotomy lhead.toNat rhead.toNat with hlt | heq | hgt
      · have hunit : lhead.toNat * capacity + capacity ≤ rhead.toNat * capacity := by
          rw [← Nat.succ_mul]
          exact Nat.mul_le_mul_right capacity hlt
        exact iff_of_true (by omega) (.inl hlt)
      · rw [heq]
        simp
      · have hunit : rhead.toNat * capacity + capacity ≤ lhead.toNat * capacity := by
          rw [← Nat.succ_mul]
          exact Nat.mul_le_mul_right capacity hgt
        exact iff_of_false (by omega) (by omega)

/-- A byte string is the writing of its value at its own length. -/
theorem bigEndian_value (bytes : Bytes) : bigEndian bytes.length (value bytes) = bytes := by
  induction h : bytes.length generalizing bytes with
  | zero => simp [List.length_eq_zero_iff.mp h, bigEndian]
  | succ n ih =>
    have hne : bytes ≠ [] := by intro hnil; simp [hnil] at h
    have hsplit := List.dropLast_concat_getLast hne
    have hlen : bytes.dropLast.length = n := by simp [h]
    have hbyte := (bytes.getLast hne).toNat_lt
    rw [← hsplit, value_concat, bigEndian]
    have hdiv : (value bytes.dropLast * 256 + (bytes.getLast hne).toNat) / 256
        = value bytes.dropLast := by omega
    rw [hdiv, ih bytes.dropLast hlen]
    congr 1
    simp only [List.cons.injEq, and_true]
    apply UInt8.toNat_inj.mp
    rw [UInt8.toNat_ofNat']
    omega

/-- Byte strings of one length with one value are equal. -/
theorem eq_of_value_eq {left right : Bytes} (length_eq : left.length = right.length)
    (value_eq : value left = value right) : left = right := by
  rw [← bigEndian_value left, ← bigEndian_value right, length_eq, value_eq]

end Bytes

end GovernanceRelay
