import GovernanceRelay.Wire

/-!
# Reading instructions one after the other

A cursor reads an instruction exactly where the bytes of an instruction that fits the wire stand in
front of it (`Cursor.next_eq_ok_iff`). Written forms therefore determine their instructions, and the
two loops over the cursor are described by the instructions whose written forms the bytes are:
`Cursor.readAll_eq_ok_iff` to the end of the input, `Cursor.readMany_eq_ok_iff` for a stated number.
-/

set_option autoImplicit false

namespace GovernanceRelay

namespace Bytes

/-- A field of a width holds a number below the capacity of the width. -/
theorem value_lt_of_length {bytes : Bytes} {width : Nat} (h : bytes.length = width) :
    value bytes < Nat.pow 256 width :=
  h ▸ value_lt bytes

/-- A field of a width is the writing of its number. -/
theorem bigEndian_value_of_length {bytes : Bytes} {width : Nat} (h : bytes.length = width) :
    bigEndian width (value bytes) = bytes :=
  h ▸ bigEndian_value bytes

end Bytes

namespace Instruction

theorem fitsWire_iff (instruction : Instruction) :
    instruction.fitsWire = true ↔
      instruction.value.toNat < valueBound ∧ instruction.payload.length < lengthBound := by
  simp [fitsWire]

/-- An instruction fits the wire exactly when none of its fields overflows. -/
theorem overflow?_eq_none_iff (instruction : Instruction) :
    instruction.overflow? = none ↔ instruction.fitsWire = true := by
  rw [fitsWire_iff, overflow?]
  split
  · simp; omega
  · split
    · simp; omega
    · simp; omega

/-- The written form of an instruction is a header of fixed size and the payload. -/
theorem toWire_append (instruction : Instruction) (rest : Bytes) :
    instruction.toWire ++ rest =
      (instruction.target.bytes ++ (Bytes.bigEndian 12 instruction.value.toNat ++
        Bytes.bigEndian 4 instruction.payload.length)) ++ (instruction.payload ++ rest) := by
  simp [toWire]

theorem length_header (instruction : Instruction) :
    (instruction.target.bytes ++ (Bytes.bigEndian 12 instruction.value.toNat ++
      Bytes.bigEndian 4 instruction.payload.length)).length = headerSize := by
  simp [headerSize, instruction.target.length_bytes]

theorem length_toWire (instruction : Instruction) :
    instruction.toWire.length = instruction.wireSize := by
  simp only [toWire, List.length_append, instruction.target.length_bytes, Bytes.length_bigEndian,
    wireSize, headerSize]

theorem toWire_ne_nil (instruction : Instruction) : instruction.toWire ≠ [] := by
  intro h
  have hlen := instruction.length_toWire
  rw [h, wireSize, headerSize, List.length_nil] at hlen
  omega

end Instruction

namespace Wire.Cursor

/-- A cursor in front of the written form of an instruction that fits the wire reads it and stands
behind it. -/
theorem next_toWire {instruction : Instruction} (fits : instruction.fitsWire = true)
    (offset : Nat) (rest : Bytes) :
    next ⟨offset, instruction.toWire ++ rest⟩ =
      .ok (instruction, ⟨offset + instruction.wireSize, rest⟩) := by
  obtain ⟨hvalue, hlength⟩ := (Instruction.fitsWire_iff instruction).mp fits
  -- the number fields are wide enough for what was written in them
  have hread : Bytes.value (Bytes.bigEndian 12 instruction.value.toNat) = instruction.value.toNat :=
    Bytes.value_bigEndian hvalue
  have hsize : Bytes.value (Bytes.bigEndian 4 instruction.payload.length)
      = instruction.payload.length := Bytes.value_bigEndian hlength
  have hbody : (instruction.payload ++ rest).take instruction.payload.length
      = instruction.payload := List.take_left
  unfold next
  simp only [Instruction.toWire_append]
  rw [List.take_left' instruction.length_header,
    List.drop_left' instruction.length_header]
  simp [FixedBytes.split?_append, hread, hsize, hbody, Instruction.wireSize, Nat.add_assoc]

/-- What a cursor reads is an instruction that fits the wire, and its written form is what the cursor
moved over. -/
theorem toWire_of_next {cursor after : Cursor} {instruction : Instruction}
    (h : cursor.next = .ok (instruction, after)) :
    instruction.fitsWire = true ∧ cursor.rest = instruction.toWire ++ after.rest ∧
      after.offset = cursor.offset + instruction.wireSize := by
  unfold next at h
  simp only at h
  split at h
  · rename_i target fields hsplit
    split at h
    · cases h
    · rename_i hfields
      split at h
      · cases h
      · rename_i hpayload
        simp only [Except.ok.injEq, Prod.mk.injEq] at h
        obtain ⟨rfl, rfl⟩ := h
        -- the header is 36 bytes, so 16 remain behind the target
        have hheader := FixedBytes.append_of_split? hsplit
        have hlen : fields.length = 16 := by
          have := congrArg List.length hheader
          simp only [List.length_take, List.length_append, target.length_bytes, headerSize] at this
          omega
        have hvalueLen : (fields.take 12).length = 12 := by simp [hlen]
        have hsizeLen : (fields.drop 12).length = 4 := by simp [hlen]
        -- a number read from a field fits the field
        have hvalue : Bytes.value (fields.take 12) < Instruction.valueBound :=
          Bytes.value_lt_of_length hvalueLen
        have hsize : Bytes.value (fields.drop 12) < Instruction.lengthBound :=
          Bytes.value_lt_of_length hsizeLen
        have hword : (BitVec.ofNat 128 (Bytes.value (fields.take 12))).toNat
            = Bytes.value (fields.take 12) := by
          rw [BitVec.toNat_ofNat]
          exact Nat.mod_eq_of_lt (Nat.lt_trans hvalue (by decide))
        have hbody : ((cursor.rest.drop headerSize).take (Bytes.value (fields.drop 12))).length
            = Bytes.value (fields.drop 12) :=
          Nat.le_antisymm (List.length_take_le _ _) (Nat.le_of_not_lt hpayload)
        refine ⟨?_, ?_, ?_⟩
        · rw [Instruction.fitsWire_iff]
          exact ⟨by rwa [hword], by rwa [hbody]⟩
        · -- writing the fields again gives back the bytes that they were cut from
          rw [Instruction.toWire_append, hword, hbody, Bytes.bigEndian_value_of_length hvalueLen,
            Bytes.bigEndian_value_of_length hsizeLen, List.take_append_drop,
            List.take_append_drop, ← hheader, List.take_append_drop]
        · simp only [Instruction.wireSize, hbody, Nat.add_assoc]
  · cases h

/-- A reading takes the bytes of its instruction. -/
theorem length_rest_of_next {cursor after : Cursor} {instruction : Instruction}
    (h : cursor.next = .ok (instruction, after)) :
    cursor.rest.length = headerSize + instruction.payload.length + after.rest.length := by
  rw [(toWire_of_next h).2.1, List.length_append, instruction.length_toWire,
    Instruction.wireSize]

/-- A cursor reads an instruction exactly where its written form stands, and moves behind it. -/
theorem next_eq_ok_iff (cursor after : Cursor) (instruction : Instruction) :
    cursor.next = .ok (instruction, after) ↔
      instruction.fitsWire = true ∧ cursor.rest = instruction.toWire ++ after.rest ∧
        after.offset = cursor.offset + instruction.wireSize := by
  constructor
  · exact toWire_of_next
  · rintro ⟨fits, hrest, hoffset⟩
    obtain ⟨offset, rest⟩ := cursor
    obtain ⟨offset', rest'⟩ := after
    simp only at hrest hoffset
    subst hrest hoffset
    exact next_toWire fits offset rest'

/-! ## Runs of readings -/

/-- Reading instructions one after the other takes a cursor to another one. -/
inductive Reads : Cursor → List Instruction → Cursor → Prop
  | nil (cursor : Cursor) : Reads cursor [] cursor
  | cons {cursor middle after : Cursor} {instruction : Instruction} {rest : List Instruction} :
      cursor.next = .ok (instruction, middle) → Reads middle rest after →
        Reads cursor (instruction :: rest) after

/-- A cursor reads the instructions whose written forms stand in front of it, in order. -/
theorem reads_iff (cursor after : Cursor) (instructions : List Instruction) :
    Reads cursor instructions after ↔
      (∀ instruction ∈ instructions, instruction.fitsWire = true) ∧
        cursor.rest = instructions.flatMap Instruction.toWire ++ after.rest ∧
        after.offset = cursor.offset + (instructions.flatMap Instruction.toWire).length := by
  constructor
  · intro h
    induction h with
    | nil cursor => simp
    | @cons cursor middle after instruction rest hnext _ ih =>
      obtain ⟨hfits, hbytes, hoffset⟩ := toWire_of_next hnext
      obtain ⟨ihfits, ihbytes, ihoffset⟩ := ih
      refine ⟨List.forall_mem_cons.mpr ⟨hfits, ihfits⟩, ?_, ?_⟩
      · rw [hbytes, ihbytes, List.flatMap_cons, List.append_assoc]
      · rw [ihoffset, hoffset, List.flatMap_cons, List.length_append, instruction.length_toWire,
          Nat.add_assoc]
  · induction instructions generalizing cursor with
    | nil =>
      rintro ⟨-, hbytes, hoffset⟩
      obtain ⟨offset, rest⟩ := cursor
      obtain ⟨offset', rest'⟩ := after
      simp only [List.flatMap_nil, List.nil_append, List.length_nil] at hbytes hoffset
      subst hbytes hoffset
      exact .nil _
    | cons instruction rest ih =>
      rintro ⟨fits, hbytes, hoffset⟩
      obtain ⟨hfits, hrest⟩ := List.forall_mem_cons.mp fits
      rw [List.flatMap_cons, List.append_assoc] at hbytes
      rw [List.flatMap_cons, List.length_append, instruction.length_toWire,
        ← Nat.add_assoc] at hoffset
      -- the first written form stands in front of the cursor, so it is read next
      have hnext := (next_eq_ok_iff cursor
        ⟨cursor.offset + instruction.wireSize, rest.flatMap Instruction.toWire ++ after.rest⟩
        instruction).mpr ⟨hfits, hbytes, rfl⟩
      exact .cons hnext (ih _ ⟨hrest, rfl, hoffset⟩)

/-- The instructions behind a first one that was read are those read afterwards. -/
theorem reads_cons_iff_of_next {cursor middle : Cursor} {instruction : Instruction}
    (hnext : cursor.next = .ok (instruction, middle)) (first : Instruction)
    (rest : List Instruction) (after : Cursor) :
    Reads cursor (first :: rest) after ↔ first = instruction ∧ Reads middle rest after := by
  constructor
  · intro h
    cases h with
    | cons hfirst hrest =>
      rw [hnext] at hfirst
      cases hfirst
      exact ⟨rfl, hrest⟩
  · rintro ⟨rfl, hrest⟩
    exact .cons hnext hrest

/-- Where no instruction can be read, no run of readings begins. -/
theorem not_reads_cons_of_next {cursor : Cursor} {error : WireError}
    (hnext : cursor.next = .error error) (first : Instruction) (rest : List Instruction)
    (after : Cursor) : ¬ Reads cursor (first :: rest) after := by
  intro h
  cases h with
  | cons hfirst _ =>
    rw [hnext] at hfirst
    cases hfirst

/-- Reading a stated number of instructions is a run of that many readings. -/
theorem readMany_eq_ok_iff (count : Nat) (read all : List Instruction) (cursor after : Cursor) :
    readMany count read cursor = .ok (all, after) ↔
      ∃ more, more.length = count ∧ all = read.reverse ++ more ∧ Reads cursor more after := by
  induction count generalizing read cursor with
  | zero =>
    constructor
    · intro h
      cases h
      exact ⟨[], rfl, (List.append_nil _).symm, .nil _⟩
    · rintro ⟨more, hlen, rfl, hreads⟩
      cases List.length_eq_zero_iff.mp hlen
      cases hreads
      rw [readMany, List.append_nil]
  | succ count ih =>
    rw [readMany]
    cases hnext : cursor.next with
    | error error =>
      constructor
      · intro h
        cases h
      · rintro ⟨more, hlen, -, hreads⟩
        -- a run of at least one reading begins with one that succeeds
        obtain ⟨first, rest, rfl⟩ := List.exists_cons_of_length_eq_add_one hlen
        exact absurd hreads (not_reads_cons_of_next hnext first rest after)
    | ok pair =>
      obtain ⟨instruction, middle⟩ := pair
      simp only [ih]
      constructor
      · rintro ⟨more, hlen, rfl, hreads⟩
        exact ⟨instruction :: more, by simp [hlen], by simp, .cons hnext hreads⟩
      · rintro ⟨more, hlen, rfl, hreads⟩
        obtain ⟨first, rest, rfl⟩ := List.exists_cons_of_length_eq_add_one hlen
        obtain ⟨rfl, hrest⟩ := (reads_cons_iff_of_next hnext first rest after).mp hreads
        exact ⟨rest, Nat.succ.inj hlen, by simp, hrest⟩

/-- At the end of the input there is nothing more to read. -/
theorem reads_iff_of_rest_nil {cursor : Cursor} (hrest : cursor.rest = []) (more : List Instruction)
    (after : Cursor) : Reads cursor more after ↔ more = [] ∧ after = cursor := by
  constructor
  · intro h
    cases h with
    | nil => exact ⟨rfl, rfl⟩
    | @cons _ _ _ instruction _ hnext _ =>
      obtain ⟨-, hbytes, -⟩ := toWire_of_next hnext
      rw [hrest] at hbytes
      exact absurd (List.append_eq_nil_iff.mp hbytes.symm).1 instruction.toWire_ne_nil
  · rintro ⟨rfl, rfl⟩
    exact .nil _

/-- A run of readings that starts at the end of the input adds nothing to what was read. -/
theorem exists_reads_iff_of_rest_nil {cursor : Cursor} (hrest : cursor.rest = [])
    (read all : List Instruction) :
    (∃ more after, all = read ++ more ∧ Reads cursor more after ∧ after.rest = []) ↔
      read = all := by
  constructor
  · rintro ⟨more, after, rfl, hreads, -⟩
    obtain ⟨rfl, -⟩ := (reads_iff_of_rest_nil hrest more after).mp hreads
    exact (List.append_nil read).symm
  · rintro rfl
    exact ⟨[], cursor, (List.append_nil read).symm, .nil cursor, hrest⟩

/-- Reading to the end of the input is a run of readings that leaves nothing. -/
theorem readAll_eq_ok_iff {limit : Nat} (read all : List Instruction) {cursor : Cursor}
    (enough : cursor.rest.length ≤ limit) :
    readAll limit read cursor = .ok all ↔
      ∃ more after, all = read.reverse ++ more ∧ Reads cursor more after ∧ after.rest = [] := by
  -- each turn consumes a nonempty written form, so the limit cannot run out before the input
  induction limit generalizing read cursor with
  | zero =>
    have hrest : cursor.rest = [] := List.length_eq_zero_iff.mp (Nat.le_zero.mp enough)
    rw [readAll, Except.ok.injEq, exists_reads_iff_of_rest_nil hrest]
  | succ limit ih =>
    rw [readAll]
    by_cases hrest : cursor.rest = []
    · rw [if_pos (by simp [isFinished, hrest]), Except.ok.injEq, exists_reads_iff_of_rest_nil hrest]
    · rw [if_neg (by simpa [isFinished] using hrest)]
      cases hnext : cursor.next with
      | error error =>
        constructor
        · intro h
          cases h
        · rintro ⟨more, after, -, hreads, hafter⟩
          cases more with
          | nil =>
            cases hreads
            exact absurd hafter hrest
          | cons first rest => exact absurd hreads (not_reads_cons_of_next hnext first rest after)
      | ok pair =>
        obtain ⟨instruction, middle⟩ := pair
        have hshort : middle.rest.length ≤ limit := by
          have hlen := length_rest_of_next hnext
          rw [headerSize] at hlen
          omega
        simp only [ih _ hshort]
        constructor
        · rintro ⟨more, after, rfl, hreads, hafter⟩
          exact ⟨instruction :: more, after, by simp, .cons hnext hreads, hafter⟩
        · rintro ⟨more, after, rfl, hreads, hafter⟩
          cases more with
          | nil =>
            cases hreads
            exact absurd hafter hrest
          | cons first rest =>
            obtain ⟨rfl, hmore⟩ := (reads_cons_iff_of_next hnext first rest after).mp hreads
            exact ⟨rest, after, by simp, hmore, hafter⟩

theorem readAll_start_eq_ok_iff (bytes : Bytes) (all : List Instruction) :
    readAll bytes.length [] (start bytes) = .ok all ↔
      ∃ after, Reads (start bytes) all after ∧ after.rest = [] := by
  rw [readAll_eq_ok_iff [] all (Nat.le_refl bytes.length)]
  simp only [List.reverse_nil, List.nil_append]
  constructor
  · rintro ⟨_, after, rfl, h⟩
    exact ⟨after, h⟩
  · rintro ⟨after, h⟩
    exact ⟨all, after, rfl, h⟩

theorem readMany_nil_eq_ok_iff (count : Nat) (all : List Instruction) (cursor after : Cursor) :
    readMany count [] cursor = .ok (all, after) ↔
      all.length = count ∧ Reads cursor all after := by
  rw [readMany_eq_ok_iff]
  simp only [List.reverse_nil, List.nil_append]
  constructor
  · rintro ⟨_, hlen, rfl, h⟩
    exact ⟨hlen, h⟩
  · rintro ⟨hlen, h⟩
    exact ⟨all, hlen, rfl, h⟩

theorem finish_eq_ok_iff (cursor : Cursor) : cursor.finish = .ok () ↔ cursor.rest = [] := by
  simp [finish, isFinished]

end Wire.Cursor

end GovernanceRelay
