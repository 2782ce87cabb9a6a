import GovernanceRelay.Proofs.Wire.Ending

/-!
# Written batches that are cut off or continued

A front of a written batch ends between two instructions or inside one of them
(`Wire.exists_cut_of_isPrefix`). Reading it takes the instructions before the cut and then lacks the
bytes that were cut off (`Wire.ends_of_cut`). Behind a written batch reading goes on as if it began
there, except that all places are counted from the front of the batch (`Wire.ends_append`). What
both ways of reading make of cut and of continued batches follows (`Wire.cut_and_continued`): a
front is never taken for a batch of the full size, nor is anything behind a batch overlooked where
the size is stated.
-/

set_option autoImplicit false

namespace GovernanceRelay

/-- The instructions of a batch followed by those of another. -/
def Batch.append (first second : Batch) : Batch where
  instructions := first.instructions ++ second.instructions
  nonempty := List.append_ne_nil_of_left_ne_nil first.nonempty _

/-- What is missing where the written form of an instruction, which begins at an offset, is cut off
after a number of bytes. -/
def Instruction.cutFault (instruction : Instruction) (offset size : Nat) : WireError :=
  if size < headerSize then .truncated offset headerSize size
  else .truncated (offset + headerSize) instruction.payload.length (size - headerSize)

/-- A fault as it is when there are further bytes in front. -/
def WireError.behind (skipped : Nat) : WireError → WireError
  | .truncated offset needed remaining => .truncated (offset + skipped) needed remaining
  | .trailing offset remaining => .trailing (offset + skipped) remaining
  | .overflow index field => .overflow index field
  | .emptyBatch => .emptyBatch

theorem Instruction.exists_cutFault (instruction : Instruction) (offset size : Nat) :
    ∃ place needed remaining,
      instruction.cutFault offset size = .truncated place needed remaining := by
  rw [cutFault]
  split
  · exact ⟨_, _, _, rfl⟩
  · exact ⟨_, _, _, rfl⟩

namespace Wire

namespace Cursor

/-- The header of an instruction that fits the wire states the length of its payload. -/
theorem statedLength_of_take {instruction : Instruction} (fits : instruction.fitsWire = true)
    {cursor : Cursor}
    (hheader : cursor.rest.take headerSize = instruction.toWire.take headerSize) :
    cursor.statedLength = instruction.payload.length := by
  obtain ⟨-, hlength⟩ := (Instruction.fitsWire_iff instruction).mp fits
  have htoWire := instruction.toWire_append []
  rw [List.append_nil, List.append_nil] at htoWire
  rw [statedLength, hheader, htoWire, List.take_left' instruction.length_header,
    List.drop_left' instruction.target.length_bytes, List.drop_left' (Bytes.length_bigEndian _ _),
    Bytes.value_bigEndian hlength]

/-- In front of a part of a written form the rest of it is missing. -/
theorem next_of_cut {instruction : Instruction} (fits : instruction.fitsWire = true)
    {cursor : Cursor} (hpart : cursor.rest <+: instruction.toWire)
    (hne : cursor.rest ≠ instruction.toWire) :
    cursor.next = .error (instruction.cutFault cursor.offset cursor.remaining) := by
  have hless : cursor.remaining < headerSize + instruction.payload.length := by
    have hwire := instruction.length_toWire
    rw [Instruction.wireSize] at hwire
    rw [← hwire]
    exact Nat.lt_of_le_of_ne hpart.length_le fun heq => hne (hpart.eq_of_length heq)
  rw [Instruction.cutFault]
  split
  · rename_i short
    exact next_of_short short
  · rename_i hlong
    have long : headerSize ≤ cursor.remaining := Nat.le_of_not_lt hlong
    have hheader : cursor.rest.take headerSize = instruction.toWire.take headerSize := by
      rw [List.prefix_iff_eq_take.mp hpart, List.take_take]
      exact congrArg (List.take · _) (Nat.min_eq_left long)
    have hstated := statedLength_of_take fits hheader
    have hnext := (next_of_long long).1
    rw [hstated] at hnext
    exact hnext (Nat.sub_lt_left_of_lt_add long hless)

/-- What is missing is the same when there are further bytes in front. -/
theorem Lacks.behind {offset : Nat} {rest : Bytes} {error : WireError}
    (lacks : Lacks ⟨offset, rest⟩ error) (skipped : Nat) :
    Lacks ⟨offset + skipped, rest⟩ (error.behind skipped) := by
  cases lacks with
  | header short => exact .header short
  | payload long lacking =>
    rw [WireError.behind, Nat.add_right_comm]
    exact .payload long lacking

end Cursor

variable {instructions : List Instruction}

/-- A front of written instructions that is not all of them ends at or inside the written form of
one of them. -/
theorem exists_cut_of_isPrefix {front : Bytes}
    (hfront : front <+: instructions.flatMap Instruction.toWire)
    (hne : front ≠ instructions.flatMap Instruction.toWire) :
    ∃ before instruction after part, instructions = before ++ instruction :: after ∧
      front = before.flatMap Instruction.toWire ++ part ∧ part <+: instruction.toWire ∧
      part ≠ instruction.toWire := by
  induction instructions generalizing front with
  | nil => exact absurd (List.prefix_nil.mp hfront) hne
  | cons instruction rest ih =>
    rw [List.flatMap_cons] at hfront hne
    by_cases hwhole : instruction.toWire <+: front
    · -- the first instruction is whole, so the front ends behind it
      obtain ⟨more, rfl⟩ := hwhole
      obtain ⟨before, cut, after, part, rfl, rfl, hpart, hcut⟩ :=
        ih ((List.prefix_append_right_inj _).mp hfront) fun heq => hne (heq ▸ rfl)
      refine ⟨instruction :: before, cut, after, part, rfl, ?_, hpart, hcut⟩
      rw [List.flatMap_cons, List.append_assoc]
    · have hpart : front <+: instruction.toWire :=
        (List.prefix_or_prefix_of_prefix hfront (List.prefix_append _ _)).resolve_right hwhole
      have hcut : front ≠ instruction.toWire := fun heq => hwhole (heq ▸ List.prefix_rfl)
      exact ⟨[], instruction, rest, front, rfl, rfl, hpart, hcut⟩

variable (fits : ∀ instruction ∈ instructions, instruction.fitsWire = true)

include fits

/-- Reading from the front takes the written instructions there, whatever stands behind them. -/
theorem reads_start_append (rest : Bytes) :
    Cursor.Reads (Cursor.start (instructions.flatMap Instruction.toWire ++ rest)) instructions
      ⟨(instructions.flatMap Instruction.toWire).length, rest⟩ :=
  (Cursor.reads_iff _ _ _).mpr ⟨fits, rfl, (Nat.zero_add _).symm⟩

/-- Reading a front of written instructions ends at the instruction that is cut off. -/
theorem ends_of_cut {instruction : Instruction} (hfits : instruction.fitsWire = true) {part : Bytes}
    (hpart : part <+: instruction.toWire) (hne : part ≠ instruction.toWire) :
    (Cursor.start (instructions.flatMap Instruction.toWire ++ part)).Ends instructions
      ⟨(instructions.flatMap Instruction.toWire).length, part⟩
      (instruction.cutFault (instructions.flatMap Instruction.toWire).length part.length) where
  reads := reads_start_append fits part
  fault := Cursor.next_of_cut hfits hpart hne

/-- Reading goes on behind written instructions as if it began there. -/
theorem ends_append {more : Bytes} {front : List Instruction} {stop : Cursor} {fault : WireError}
    (ends : (Cursor.start more).Ends front stop fault) :
    (Cursor.start (instructions.flatMap Instruction.toWire ++ more)).Ends (instructions ++ front)
      ⟨stop.offset + (instructions.flatMap Instruction.toWire).length, stop.rest⟩
      (fault.behind (instructions.flatMap Instruction.toWire).length) where
  reads := by
    obtain ⟨hfits, hbytes, hoffset⟩ := (Cursor.reads_iff _ _ _).mp ends.reads
    refine (Cursor.reads_append_iff _ _ _ _).mpr ⟨_, reads_start_append fits more, ?_⟩
    refine (Cursor.reads_iff _ _ _).mpr ⟨hfits, hbytes, ?_⟩
    simp only [hoffset, Cursor.start]
    omega
  fault := (Cursor.next_eq_error_iff _ _).mpr (ends.lacks.behind _)

omit fits

section Written

variable {batch : Batch} {bytes : Bytes} (written : encode batch = .ok bytes)

include written

/-- Bytes behind a written batch are reported where the size of the batch is stated. -/
theorem decodeExactly_append {more : Bytes} (hmore : more ≠ []) :
    decodeExactly batch.size (bytes ++ more) =
      .error (.trailing (encodedSize batch) more.length) := by
  obtain ⟨fits, hbytes⟩ := (encode_eq_ok_iff batch bytes).mp written
  have hreads := reads_start_append fits more
  rw [← hbytes, length_of_encode written] at hreads
  have hread := (Cursor.readMany_nil_eq_ok_iff batch.size _ _ _).mpr ⟨rfl, hreads⟩
  have hsize : batch.size ≠ 0 := fun hzero => batch.nonempty (List.length_eq_zero_iff.mp hzero)
  simp only [decodeExactly, if_neg hsize, hread]
  rw [Cursor.finish_of_rest_ne_nil hmore]
  rfl

/-- A written batch followed by bytes that are read as another is read as both. -/
theorem decode_append_of_ok {more : Bytes} {second : Batch} (hdecode : decode more = .ok second) :
    decode (bytes ++ more) = .ok (batch.append second) := by
  obtain ⟨fits, rfl⟩ := (encode_eq_ok_iff batch bytes).mp written
  obtain ⟨moreFits, rfl⟩ := (decode_eq_ok_iff more second).mp hdecode
  refine (decode_eq_ok_iff _ _).mpr ⟨List.forall_mem_append.mpr ⟨fits, moreFits⟩, ?_⟩
  rw [Batch.append, List.flatMap_append]

/-- A written batch followed by bytes that are not read is not read for the same fault, which is
found farther behind. -/
theorem decode_append_of_error {more : Bytes} (hmore : more ≠ []) {error : WireError}
    (hdecode : decode more = .error error) :
    decode (bytes ++ more) = .error (error.behind (encodedSize batch)) := by
  obtain ⟨fits, hbytes⟩ := (encode_eq_ok_iff batch bytes).mp written
  obtain ⟨front, stop, fault, ends⟩ := Cursor.exists_ends (Cursor.start more)
  have hstop : stop.rest ≠ [] := by
    rw [Ne, rest_eq_nil_iff_of_ends ends, hdecode]
    simp [hmore]
  have hends := ends_append fits ends
  rw [← hbytes, length_of_encode written] at hends
  rw [error_eq_of_ends ends hmore hdecode]
  exact decode_eq_error_of_ends hends hstop

/-- A written batch that is cut off or continued. A front of it that is not all of it is never taken
for a batch of its size: bytes are missing. Read to its end, an empty front is no batch, and one
that is the written form of the first instructions is read as these. Any other front ends inside the
written form of an instruction, and what is missing is the rest of its header, at the place where it
begins, or the rest of its payload, at the place where that begins. Bytes behind the written batch
are reported if its size is stated. Otherwise they are read as if they stood by themselves: if they
are a batch, its instructions follow, and if bytes are missing in them, they are missing as far
behind the end of the batch. -/
theorem cut_and_continued :
    (∀ front, front <+: bytes → front ≠ bytes →
      (∃ offset needed remaining, decodeExactly batch.size front =
        .error (.truncated offset needed remaining)) ∧
      (front = [] → decode front = .error .emptyBatch) ∧
      (∀ whole : Batch, whole.instructions <+: batch.instructions → encode whole = .ok front →
        decode front = .ok whole) ∧
      (front ≠ [] →
        (∀ whole : Batch, whole.instructions <+: batch.instructions → encode whole ≠ .ok front) →
        ∃ before instruction after part, batch.instructions = before ++ instruction :: after ∧
          front = before.flatMap Instruction.toWire ++ part ∧ part ≠ [] ∧
          part <+: instruction.toWire ∧ part ≠ instruction.toWire ∧
          let offset := (before.flatMap Instruction.toWire).length
          decode front = .error
            (if part.length < headerSize then .truncated offset headerSize part.length
            else .truncated (offset + headerSize) instruction.payload.length
              (part.length - headerSize)))) ∧
    (∀ more, more ≠ [] →
      decodeExactly batch.size (bytes ++ more) =
        .error (.trailing (encodedSize batch) more.length) ∧
      (∀ second, decode more = .ok second → decode (bytes ++ more) = .ok (batch.append second)) ∧
      (∀ error, decode more = .error error →
        ∃ offset needed remaining, error = .truncated offset needed remaining ∧
          decode (bytes ++ more) =
            .error (.truncated (offset + encodedSize batch) needed remaining))) := by
  obtain ⟨fits, hbytes⟩ := (encode_eq_ok_iff batch bytes).mp written
  refine ⟨fun front hfront hne => ?_, fun more hmore => ⟨decodeExactly_append written hmore,
    fun second => decode_append_of_ok written, fun error hdecode => ?_⟩⟩
  · rw [hbytes] at hfront hne
    obtain ⟨before, instruction, after, part, hsplit, rfl, hpart, hcut⟩ :=
      exists_cut_of_isPrefix hfront hne
    rw [hsplit] at fits
    obtain ⟨hbefore, hrest⟩ := List.forall_mem_append.mp fits
    have ends := ends_of_cut hbefore (List.forall_mem_cons.mp hrest).1 hpart hcut
    refine ⟨?_, fun hnil => by rw [hnil]; rfl, fun whole _ hwhole =>
      (encode_eq_ok_iff_decode whole _).mp hwhole, fun hfull hwhole => ?_⟩
    · have hsize : before.length < batch.size := by
        rw [Batch.size, hsplit, List.length_append, List.length_cons]
        omega
      rw [decodeExactly_of_gt ends hsize]
      obtain ⟨offset, needed, remaining, hfault⟩ := instruction.exists_cutFault _ part.length
      exact ⟨offset, needed, remaining, congrArg _ hfault⟩
    · have hinside : part ≠ [] := by
        rintro rfl
        rw [List.append_nil] at hfull hwhole
        have hsome : before ≠ [] := by
          rintro rfl
          exact hfull rfl
        -- the front would be the written form of the instructions before the cut
        refine hwhole ⟨before, hsome⟩ (hsplit ▸ List.prefix_append _ _) ?_
        exact (encode_eq_ok_iff _ _).mpr ⟨hbefore, rfl⟩
      refine ⟨before, instruction, after, part, hsplit, rfl, hinside, hpart, hcut, ?_⟩
      exact decode_eq_error_of_ends ends hinside
  · obtain ⟨front, stop, fault, ends⟩ := Cursor.exists_ends (Cursor.start more)
    obtain ⟨offset, needed, remaining, hfault⟩ := ends.lacks.exists_truncated
    have herror := error_eq_of_ends ends hmore hdecode
    rw [hfault] at herror
    refine ⟨offset, needed, remaining, herror, ?_⟩
    rw [decode_append_of_error written hmore hdecode, herror, WireError.behind]

end Written

namespace Rehearsal

/-- A call without payload and one with a payload of three bytes. -/
def batch : Batch where
  instructions := [⟨FixedBytes.replicate 1, 5, []⟩, ⟨FixedBytes.replicate 2, 0, [1, 2, 3]⟩]
  nonempty := List.cons_ne_nil _ _

/-- The written form of the batch. -/
def bytes : Bytes := batch.instructions.flatMap Instruction.toWire

/-- Two bytes of the payload are left at the cut, which is found behind both headers, and a byte
behind the batch is reported. -/
theorem cut_and_continued_in_payload :
    encode batch = .ok bytes ∧
    (∃ offset needed remaining, decodeExactly batch.size (bytes.take 74) =
      .error (.truncated offset needed remaining)) ∧
    decode (bytes.take 74) = .error (.truncated 72 3 2) ∧
    decodeExactly batch.size (bytes ++ [7]) = .error (.trailing (encodedSize batch) 1) ∧
    encodedSize batch = 75 := by
  have written : encode batch = .ok bytes := rfl
  obtain ⟨hcut, hcontinued⟩ := cut_and_continued written
  have hne : bytes.take 74 ≠ bytes := by decide +kernel
  exact ⟨written, (hcut _ (List.take_prefix 74 bytes) hne).1, rfl,
    (hcontinued [7] (List.cons_ne_nil _ _)).1, by decide +kernel⟩

end Rehearsal

end Wire

end GovernanceRelay
