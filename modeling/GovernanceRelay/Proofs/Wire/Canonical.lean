import GovernanceRelay.Proofs.FirstFault
import GovernanceRelay.Proofs.Wire.Cursor

/-!
# One written form for each batch

Writing succeeds exactly for the batches whose instructions all fit the wire, and otherwise names
the first instruction that does not (`Wire.encode_eq_error_iff`). What is written is read back, with
and without the number of instructions, and what is read is the written form of what it was read as
(`Wire.encode_eq_ok_iff_decode`), so writing is a bijection from the batches that fit the wire to
the byte strings that are read (`Wire.encode_decode_bijective`).
-/

set_option autoImplicit false

namespace GovernanceRelay

namespace Wire

/-- Writing goes through the instructions in order and stops at the first that overflows. -/
theorem overflowFrom_eq_firstFault (index : Nat) (instructions : List Instruction) :
    overflowFrom index instructions =
      firstFault (fun index instruction => instruction.overflow?.map (WireError.overflow index))
        index instructions := by
  induction instructions generalizing index with
  | nil => rfl
  | cons instruction rest ih =>
    rw [overflowFrom, firstFault_cons, ih]
    cases instruction.overflow? <;> rfl

theorem overflow_eq_none_iff (index : Nat) (instruction : Instruction) :
    instruction.overflow?.map (WireError.overflow index) = none ↔
      instruction.fitsWire = true := by
  rw [Option.map_eq_none_iff, Instruction.overflow?_eq_none_iff]

/-- The field that overflows is the amount where it is too wide and the length of the payload
otherwise. -/
theorem overflow_eq_some_iff (index : Nat) (instruction : Instruction) (error : WireError) :
    instruction.overflow?.map (WireError.overflow index) = some error ↔
      instruction.fitsWire = false ∧
        error = .overflow index
          (if Instruction.valueBound ≤ instruction.value.toNat then .value else .payloadLength) := by
  have hfits := Instruction.overflow?_eq_none_iff instruction
  rw [← Bool.not_eq_true, ← hfits, Instruction.overflow?]
  split
  · simp [eq_comm]
  · split
    · simp [eq_comm]
    · simp

/-- The written form of a batch is that of its instructions in order, if they all fit the wire. -/
theorem encode_eq_ok_iff (batch : Batch) (bytes : Bytes) :
    encode batch = .ok bytes ↔
      (∀ instruction ∈ batch.instructions, instruction.fitsWire = true) ∧
        bytes = batch.instructions.flatMap Instruction.toWire := by
  rw [← firstFault_eq_none_iff overflow_eq_none_iff 0, ← overflowFrom_eq_firstFault, encode]
  cases overflowFrom 0 batch.instructions with
  | none => simp [eq_comm]
  | some error => simp

/-- A batch is not written where an instruction does not fit the wire, and the first such
instruction is named. -/
theorem encode_eq_error_iff (batch : Batch) (error : WireError) :
    encode batch = .error error ↔
      ∃ before instruction after, batch.instructions = before ++ instruction :: after ∧
        (∀ earlier ∈ before, earlier.fitsWire = true) ∧ instruction.fitsWire = false ∧
        error = .overflow before.length
          (if Instruction.valueBound ≤ instruction.value.toNat then .value else .payloadLength) := by
  have hfirst : encode batch = .error error ↔ overflowFrom 0 batch.instructions = some error := by
    rw [encode]
    cases overflowFrom 0 batch.instructions <;> simp
  rw [hfirst, overflowFrom_eq_firstFault, firstFault_eq_some_iff overflow_eq_none_iff]
  simp only [Nat.zero_add, overflow_eq_some_iff]

theorem batchOf_eq_ok_iff (instructions : List Instruction) (batch : Batch) :
    batchOf instructions = .ok batch ↔ instructions = batch.instructions := by
  rw [batchOf]
  cases h : Batch.ofList? instructions with
  | none =>
    simp only [reduceCtorEq, false_iff]
    rintro rfl
    rw [Batch.ofList?_instructions] at h
    cases h
  | some other =>
    rw [Except.ok.injEq, ← Batch.instructions_of_ofList? h]
    exact ⟨congrArg Batch.instructions, Batch.ext⟩

/-- Reading a byte string is reading instructions until none of it is left. -/
theorem decode_eq_ok_iff_reads (bytes : Bytes) (batch : Batch) :
    decode bytes = .ok batch ↔
      ∃ after, Cursor.Reads (Cursor.start bytes) batch.instructions after ∧ after.rest = [] := by
  rw [← Cursor.readAll_start_eq_ok_iff, decode]
  by_cases hempty : bytes = []
  · -- no instructions are read from no bytes, and a batch has one
    subst hempty
    simp [Cursor.readAll, batch.nonempty.symm]
  · rw [if_neg (by simpa using hempty)]
    cases Cursor.readAll bytes.length [] (Cursor.start bytes) with
    | error error => simp
    | ok instructions => simp [batchOf_eq_ok_iff]

/-- A byte string is read as the batch whose written form it is. -/
theorem decode_eq_ok_iff (bytes : Bytes) (batch : Batch) :
    decode bytes = .ok batch ↔
      (∀ instruction ∈ batch.instructions, instruction.fitsWire = true) ∧
        bytes = batch.instructions.flatMap Instruction.toWire := by
  rw [decode_eq_ok_iff_reads]
  constructor
  · rintro ⟨after, hreads, hafter⟩
    obtain ⟨fits, hbytes, -⟩ := (Cursor.reads_iff _ _ _).mp hreads
    rw [hafter, List.append_nil] at hbytes
    exact ⟨fits, hbytes⟩
  · rintro ⟨fits, hbytes⟩
    refine ⟨⟨0 + (batch.instructions.flatMap Instruction.toWire).length, []⟩, ?_, rfl⟩
    exact (Cursor.reads_iff _ _ _).mpr ⟨fits, by rw [List.append_nil]; exact hbytes, rfl⟩

/-- What is written is read back, and what is read is the written form of what it is read as. -/
theorem encode_eq_ok_iff_decode (batch : Batch) (bytes : Bytes) :
    encode batch = .ok bytes ↔ decode bytes = .ok batch := by
  rw [encode_eq_ok_iff, decode_eq_ok_iff]

/-- Reading with a stated number of instructions accepts the byte strings that are read as a batch
of that size. -/
theorem decodeExactly_eq_ok_iff (count : Nat) (bytes : Bytes) (batch : Batch) :
    decodeExactly count bytes = .ok batch ↔ batch.size = count ∧ decode bytes = .ok batch := by
  rw [decode_eq_ok_iff_reads, decodeExactly]
  by_cases hcount : count = 0
  · -- no batch has no instructions
    rw [if_pos hcount]
    simp [Batch.size, hcount, batch.nonempty]
  · rw [if_neg hcount]
    constructor
    · intro h
      cases hread : Cursor.readMany count [] (Cursor.start bytes) with
      | error error => simp [hread] at h
      | ok pair =>
        obtain ⟨instructions, after⟩ := pair
        cases hfinish : after.finish with
        | error error => simp [hread, hfinish] at h
        | ok done =>
          -- the readings succeed and leave nothing, which is all that is asked for
          simp only [hread, hfinish] at h
          obtain rfl := (batchOf_eq_ok_iff _ _).mp h
          obtain ⟨hlen, hreads⟩ := (Cursor.readMany_nil_eq_ok_iff _ _ _ _).mp hread
          exact ⟨hlen, after, hreads, (Cursor.finish_eq_ok_iff after).mp hfinish⟩
    · rintro ⟨hsize, after, hreads, hafter⟩
      rw [(Cursor.readMany_nil_eq_ok_iff _ _ _ _).mpr ⟨hsize, hreads⟩]
      simp only [(Cursor.finish_eq_ok_iff after).mpr hafter]
      exact (batchOf_eq_ok_iff _ _).mpr rfl

/-- The size of the written form is known from the batch. -/
theorem length_of_encode {batch : Batch} {bytes : Bytes} (h : encode batch = .ok bytes) :
    bytes.length = encodedSize batch := by
  rw [((encode_eq_ok_iff batch bytes).mp h).2, List.length_flatMap, encodedSize, ← List.foldl_map,
    ← List.sum_eq_foldl_nat]
  simp only [Instruction.length_toWire]

theorem exists_encode_iff (batch : Batch) :
    (∃ bytes, encode batch = .ok bytes) ↔
      ∀ instruction ∈ batch.instructions, instruction.fitsWire = true := by
  constructor
  · rintro ⟨bytes, h⟩
    exact ((encode_eq_ok_iff batch bytes).mp h).1
  · intro fits
    exact ⟨_, (encode_eq_ok_iff batch _).mpr ⟨fits, rfl⟩⟩

/-- Writing is a bijection from the batches that fit the wire to the byte strings that are read. An
instruction fits if its amount is below `2 ^ 96` and its payload shorter than `2 ^ 32`. Writing
succeeds exactly if all instructions fit, gives a byte string of the known size and is undone by
both ways of reading; otherwise it names the first instruction that does not fit, by its amount if
that is too wide and by the length of its payload if not. Whatever is read fits the wire and is
written as the bytes that it was read from. -/
theorem encode_decode_bijective (batch : Batch) (bytes : Bytes) :
    (∀ instruction : Instruction, instruction.fitsWire = true ↔
      instruction.value.toNat < Nat.pow 2 96 ∧ instruction.payload.length < Nat.pow 2 32) ∧
    ((∃ written, encode batch = .ok written) ↔
      ∀ instruction ∈ batch.instructions, instruction.fitsWire = true) ∧
    (encode batch = .ok bytes →
      bytes.length = encodedSize batch ∧ decode bytes = .ok batch ∧
        decodeExactly batch.size bytes = .ok batch) ∧
    (∀ error, encode batch = .error error ↔
      ∃ before instruction after, batch.instructions = before ++ instruction :: after ∧
        (∀ earlier ∈ before, earlier.fitsWire = true) ∧ instruction.fitsWire = false ∧
        error = .overflow before.length
          (if Nat.pow 2 96 ≤ instruction.value.toNat then .value else .payloadLength)) ∧
    (decode bytes = .ok batch →
      (∀ instruction ∈ batch.instructions, instruction.fitsWire = true) ∧
        encode batch = .ok bytes) := by
  refine ⟨Instruction.fitsWire_iff, exists_encode_iff batch, ?_, encode_eq_error_iff batch, ?_⟩
  · intro h
    have hdecode := (encode_eq_ok_iff_decode batch bytes).mp h
    exact ⟨length_of_encode h, hdecode,
      (decodeExactly_eq_ok_iff batch.size bytes batch).mpr ⟨rfl, hdecode⟩⟩
  · intro h
    exact ⟨((decode_eq_ok_iff bytes batch).mp h).1, (encode_eq_ok_iff_decode batch bytes).mpr h⟩

end Wire

end GovernanceRelay
