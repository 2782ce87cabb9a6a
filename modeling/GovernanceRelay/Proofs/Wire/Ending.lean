import GovernanceRelay.Proofs.Wire.Canonical

/-!
# Where reading ends

No instruction is read exactly where bytes are missing, of a header or of the payload behind it
(`Cursor.next_eq_error_iff`). Since each reading takes bytes, reading from any place on ends
(`Cursor.exists_ends`): some instructions are read, and behind them bytes are missing. Both ways of
reading a byte string are decided by this end. Reading all of it looks at whether bytes are left
there, and reading a stated number at whether the number is reached before
(`Wire.decodeExactly_beside_decode`).
-/

set_option autoImplicit false

namespace GovernanceRelay

namespace FixedBytes

/-- No name splits off a byte string that is too short for it. -/
theorem split?_eq_none_iff {length : Nat} (bytes : Bytes) :
    (split? bytes : Option (FixedBytes length × Bytes)) = none ↔ bytes.length < length := by
  rw [split?, Option.map_eq_none_iff, ofBytes?]
  split
  · rename_i h
    rw [List.length_take] at h
    simp only [reduceCtorEq, false_iff]
    omega
  · rename_i h
    rw [List.length_take] at h
    simp only [true_iff]
    omega

end FixedBytes

namespace Wire

namespace Cursor

/-- The length that the header in front of a cursor states for its payload. -/
def statedLength (cursor : Cursor) : Nat :=
  Bytes.value (((cursor.rest.take headerSize).drop 20).drop 12)

section Missing

variable {cursor : Cursor}

/-- Without a whole header no instruction is read. -/
theorem next_of_short (short : cursor.remaining < headerSize) :
    cursor.next = .error (.truncated cursor.offset headerSize cursor.remaining) := by
  have hheader : (cursor.rest.take headerSize).length = cursor.remaining := by
    rw [List.length_take]
    exact Nat.min_eq_right (Nat.le_of_lt short)
  rw [next]
  cases hsplit : (FixedBytes.split? (cursor.rest.take headerSize) : Option (Address × Bytes)) with
  | none => rfl
  | some pair =>
    obtain ⟨target, fields⟩ := pair
    -- the target is there, but fewer than 16 bytes are left for the other fields
    have hlength := congrArg List.length (FixedBytes.append_of_split? hsplit)
    rw [hheader, List.length_append, target.length_bytes] at hlength
    rw [headerSize] at short
    exact if_pos (by omega)

/-- A whole header splits into the target and the fields behind it, and these end in the stated
length. -/
theorem exists_split_of_long (long : headerSize ≤ cursor.remaining) :
    ∃ (target : Address) (fields : Bytes),
      FixedBytes.split? (cursor.rest.take headerSize) = some (target, fields) ∧
        fields.length = 16 ∧ Bytes.value (fields.drop 12) = cursor.statedLength := by
  have hheader : (cursor.rest.take headerSize).length = 36 := by
    rw [List.length_take]
    exact Nat.min_eq_left long
  cases hsplit : (FixedBytes.split? (cursor.rest.take headerSize) : Option (Address × Bytes)) with
  | none =>
    have hshort := (FixedBytes.split?_eq_none_iff _).mp hsplit
    omega
  | some pair =>
    obtain ⟨target, fields⟩ := pair
    have happend := FixedBytes.append_of_split? hsplit
    refine ⟨target, fields, rfl, ?_, ?_⟩
    · rw [happend, List.length_append, target.length_bytes] at hheader
      omega
    · rw [statedLength, happend, List.drop_left' target.length_bytes]

/-- Behind a whole header an instruction is read if there are as many bytes as it states. -/
theorem next_of_long (long : headerSize ≤ cursor.remaining) :
    (cursor.remaining - headerSize < cursor.statedLength →
      cursor.next = .error (.truncated (cursor.offset + headerSize) cursor.statedLength
        (cursor.remaining - headerSize))) ∧
    (cursor.statedLength ≤ cursor.remaining - headerSize →
      ∃ instruction after, cursor.next = .ok (instruction, after)) := by
  obtain ⟨target, fields, hsplit, hfields, hstated⟩ := exists_split_of_long long
  have hbody : (cursor.rest.drop headerSize).length = cursor.remaining - headerSize :=
    List.length_drop
  rw [next]
  simp only [hsplit, hstated, List.length_take, hbody]
  rw [if_neg (by omega)]
  constructor
  · intro lacking
    rw [if_pos (by omega)]
  · intro enough
    rw [if_neg (by omega)]
    exact ⟨_, _, rfl⟩

end Missing

/-- What is missing where no instruction can be read. -/
inductive Lacks (cursor : Cursor) : WireError → Prop
  /-- The bytes left are too few for a header. -/
  | header :
      cursor.remaining < headerSize →
      Lacks cursor (.truncated cursor.offset headerSize cursor.remaining)
  /-- The bytes behind the header are fewer than it states. -/
  | payload :
      headerSize ≤ cursor.remaining →
      cursor.remaining - headerSize < cursor.statedLength →
      Lacks cursor (.truncated (cursor.offset + headerSize) cursor.statedLength
        (cursor.remaining - headerSize))

/-- No instruction is read exactly where bytes are missing, and the fault says how many. -/
theorem next_eq_error_iff (cursor : Cursor) (error : WireError) :
    cursor.next = .error error ↔ cursor.Lacks error := by
  constructor
  · intro h
    rcases Nat.lt_or_ge cursor.remaining headerSize with short | long
    · rw [next_of_short short] at h
      cases h
      exact .header short
    · obtain ⟨next_of_lacking, exists_next⟩ := next_of_long long
      rcases Nat.lt_or_ge (cursor.remaining - headerSize) cursor.statedLength with lacking | enough
      · rw [next_of_lacking lacking] at h
        cases h
        exact .payload long lacking
      · obtain ⟨instruction, after, hnext⟩ := exists_next enough
        rw [hnext] at h
        cases h
  · intro lacks
    cases lacks with
    | header short => exact next_of_short short
    | payload long lacking => exact (next_of_long long).1 lacking

theorem Lacks.exists_truncated {cursor : Cursor} {error : WireError} (lacks : cursor.Lacks error) :
    ∃ offset needed remaining, error = .truncated offset needed remaining := by
  cases lacks with
  | header _ => exact ⟨_, _, _, rfl⟩
  | payload _ _ => exact ⟨_, _, _, rfl⟩

/-- At the end of the input a header is missing. -/
theorem next_of_rest_nil {cursor : Cursor} (hrest : cursor.rest = []) :
    cursor.next = .error (.truncated cursor.offset headerSize 0) := by
  have hnone : cursor.remaining = 0 := by rw [remaining, hrest, List.length_nil]
  rw [next_of_short (by rw [hnone, headerSize]; omega), hnone]

/-! ## Runs of readings and their ends -/

theorem reads_append_iff (cursor after : Cursor) (first second : List Instruction) :
    Reads cursor (first ++ second) after ↔
      ∃ middle, Reads cursor first middle ∧ Reads middle second after := by
  induction first generalizing cursor with
  | nil =>
    constructor
    · intro h
      exact ⟨cursor, .nil cursor, h⟩
    · rintro ⟨middle, hfirst, hsecond⟩
      cases hfirst
      exact hsecond
  | cons instruction rest ih =>
    rw [List.cons_append]
    constructor
    · intro h
      cases h with
      | cons hnext hmore =>
        obtain ⟨middle, hrest, hsecond⟩ := (ih _).mp hmore
        exact ⟨middle, .cons hnext hrest, hsecond⟩
    · rintro ⟨middle, hfirst, hsecond⟩
      cases hfirst with
      | cons hnext hrest => exact .cons hnext ((ih _).mpr ⟨middle, hrest, hsecond⟩)

/-- Reading from a cursor ends: it takes some instructions and then meets a place where no
instruction can be read. -/
structure Ends (cursor : Cursor) (front : List Instruction) (stop : Cursor) (fault : WireError) :
    Prop where
  /-- These instructions are read one after the other. -/
  reads : Reads cursor front stop
  /-- No other is read behind them. -/
  fault : stop.next = .error fault

/-- Reading always ends. -/
theorem exists_ends (cursor : Cursor) : ∃ front stop fault, cursor.Ends front stop fault := by
  -- every reading takes bytes, so the number of those left decreases
  induction hsize : cursor.rest.length using Nat.strongRecOn generalizing cursor with
  | ind size ih =>
    cases hnext : cursor.next with
    | error error => exact ⟨[], cursor, error, .nil cursor, hnext⟩
    | ok pair =>
      obtain ⟨instruction, middle⟩ := pair
      have hless : middle.rest.length < size := by
        rw [← hsize, length_rest_of_next hnext, headerSize]
        omega
      obtain ⟨front, stop, fault, ends⟩ := ih _ hless middle rfl
      exact ⟨instruction :: front, stop, fault, .cons hnext ends.reads, ends.fault⟩

section Ends

variable {cursor stop : Cursor} {front : List Instruction} {fault : WireError}

/-- Readings that end have lacked bytes. -/
theorem Ends.lacks (ends : cursor.Ends front stop fault) : stop.Lacks fault :=
  (next_eq_error_iff stop fault).mp ends.fault

/-- As many instructions as there are in front of the end can be read on their own. -/
theorem Ends.exists_readMany (ends : cursor.Ends front stop fault) {count : Nat}
    (hcount : count ≤ front.length) :
    ∃ middle, readMany count [] cursor = .ok (front.take count, middle) ∧
      Reads cursor (front.take count) middle ∧ Reads middle (front.drop count) stop := by
  have hreads := ends.reads
  rw [← List.take_append_drop count front] at hreads
  obtain ⟨middle, hfirst, hsecond⟩ := (reads_append_iff _ _ _ _).mp hreads
  have hlength : (front.take count).length = count := List.length_take_of_le hcount
  exact ⟨middle, (readMany_nil_eq_ok_iff _ _ _ _).mpr ⟨hlength, hfirst⟩, hfirst, hsecond⟩

/-- More instructions cannot be read, for the fault at the end. -/
theorem Ends.readMany_eq_error (ends : cursor.Ends front stop fault) {count : Nat}
    (hcount : front.length < count) (read : List Instruction) :
    readMany count read cursor = .error fault := by
  obtain ⟨reads, hfault⟩ := ends
  -- there are fewer readings than stated, so the number cannot be reached before the end
  induction reads generalizing count read with
  | nil cursor =>
    cases count with
    | zero => exact absurd hcount (Nat.not_lt_zero _)
    | succ count => rw [readMany, hfault]
  | cons hnext _ ih =>
    cases count with
    | zero => exact absurd hcount (Nat.not_lt_zero _)
    | succ count =>
      rw [readMany, hnext]
      exact ih (Nat.lt_of_succ_lt_succ hcount) _ hfault

/-- Where bytes are left at the end, reading until nothing is left fails for the fault there. -/
theorem Ends.readAll_eq_error (ends : cursor.Ends front stop fault) (hstop : stop.rest ≠ [])
    {limit : Nat} (enough : cursor.rest.length ≤ limit) (read : List Instruction) :
    readAll limit read cursor = .error fault := by
  obtain ⟨reads, hfault⟩ := ends
  -- each reading takes bytes, so the limit cannot be reached before the end
  induction reads generalizing limit read with
  | nil cursor =>
    cases limit with
    | zero => exact absurd (List.length_eq_zero_iff.mp (Nat.le_zero.mp enough)) hstop
    | succ limit => rw [readAll, if_neg (by simpa [isFinished] using hstop), hfault]
  | @cons cursor middle _ instruction _ hnext _ ih =>
    have hlength := length_rest_of_next hnext
    rw [headerSize] at hlength
    cases limit with
    | zero => omega
    | succ limit =>
      have hrest : cursor.rest ≠ [] := by
        intro hnil
        rw [next_of_rest_nil hnil] at hnext
        cases hnext
      rw [readAll, if_neg (by simpa [isFinished] using hrest), hnext]
      exact ih hstop (by omega) _ hfault

end Ends

/-- What was read from the front of a byte string and what is left make it up. -/
theorem length_of_reads_start {bytes : Bytes} {instructions : List Instruction} {after : Cursor}
    (reads : Reads (start bytes) instructions after) :
    after.offset + after.rest.length = bytes.length := by
  obtain ⟨-, hbytes, hoffset⟩ := (reads_iff _ _ _).mp reads
  have hlength := congrArg List.length hbytes
  rw [List.length_append] at hlength
  rw [hoffset, start, Nat.zero_add]
  exact hlength.symm

theorem finish_of_rest_ne_nil {cursor : Cursor} (hrest : cursor.rest ≠ []) :
    cursor.finish = .error (.trailing cursor.offset cursor.remaining) := by
  rw [finish, if_neg (by simpa [isFinished] using hrest)]

end Cursor

section Ends

variable {bytes : Bytes} {front : List Instruction} {stop : Cursor} {fault : WireError}
  (ends : (Cursor.start bytes).Ends front stop fault)

include ends

/-- Where bytes are left at the end, reading all of them fails for the fault at the end. -/
theorem decode_eq_error_of_ends (hstop : stop.rest ≠ []) : decode bytes = .error fault := by
  have hbytes : bytes ≠ [] := by
    rintro rfl
    obtain ⟨-, rfl⟩ := (Cursor.reads_iff_of_rest_nil rfl _ _).mp ends.reads
    exact hstop rfl
  rw [decode, if_neg (by simpa using hbytes),
    ends.readAll_eq_error hstop (Nat.le_refl bytes.length) []]

/-- Nothing is left at the end exactly if there was nothing or all of it is read as a batch. -/
theorem rest_eq_nil_iff_of_ends :
    stop.rest = [] ↔ bytes = [] ∨ ∃ batch, decode bytes = .ok batch := by
  constructor
  · intro hstop
    by_cases hfront : front = []
    · subst hfront
      cases ends.reads
      exact .inl hstop
    · exact .inr ⟨⟨front, hfront⟩, (decode_eq_ok_iff_reads _ _).mpr ⟨stop, ends.reads, hstop⟩⟩
  · rintro (rfl | ⟨batch, hdecode⟩)
    · obtain ⟨-, rfl⟩ := (Cursor.reads_iff_of_rest_nil rfl _ _).mp ends.reads
      rfl
    · refine Decidable.byContradiction fun hstop => ?_
      rw [decode_eq_error_of_ends ends hstop] at hdecode
      cases hdecode

/-- Reading all of a byte string that is not empty fails only for the fault at the end. -/
theorem error_eq_of_ends (hbytes : bytes ≠ []) {error : WireError}
    (hdecode : decode bytes = .error error) : error = fault := by
  have hstop : stop.rest ≠ [] := by
    rw [Ne, rest_eq_nil_iff_of_ends ends, hdecode]
    simp [hbytes]
  rw [decode_eq_error_of_ends ends hstop] at hdecode
  exact (Except.error.inj hdecode).symm

/-- A number of instructions that can be read is accepted if nothing is left behind them; otherwise
the bytes left are reported. -/
theorem decodeExactly_of_le {count : Nat} (positive : 0 < count) (hcount : count ≤ front.length) :
    ∃ after, Cursor.Reads (Cursor.start bytes) (front.take count) after ∧
      Cursor.Reads after (front.drop count) stop ∧
      (after.rest ≠ [] →
        decodeExactly count bytes = .error (.trailing after.offset after.remaining)) := by
  obtain ⟨after, hread, hfirst, hsecond⟩ := ends.exists_readMany hcount
  refine ⟨after, hfirst, hsecond, fun hrest => ?_⟩
  simp only [decodeExactly, if_neg (Nat.ne_of_gt positive), hread,
    Cursor.finish_of_rest_ne_nil hrest]

/-- A larger number of instructions is refused for the fault at the end. -/
theorem decodeExactly_of_gt {count : Nat} (hcount : front.length < count) :
    decodeExactly count bytes = .error fault := by
  simp only [decodeExactly, if_neg (Nat.ne_of_gt (Nat.zero_lt_of_lt hcount)),
    ends.readMany_eq_error hcount]

end Ends

/-- Reading a stated number of instructions compared with reading all there are. No instructions are
no batch. A byte string is accepted exactly if all of it is read as a batch of the stated size. If
more instructions can be read than stated, or bytes are left behind the stated number, these bytes
are reported as trailing, with their place. If fewer can be read, the byte string is too short: the
fault is that of reading all of it, and where this has none, because the byte string is empty or
read to its end, another header is missing there. -/
theorem decodeExactly_beside_decode (bytes : Bytes) :
    decodeExactly 0 bytes = .error .emptyBatch ∧
    (∀ error, decode bytes = .error error →
      if bytes = [] then error = .emptyBatch
      else ∃ offset needed remaining, error = .truncated offset needed remaining) ∧
    (∃ front stop fault, (Cursor.start bytes).Ends front stop fault) ∧
    ∀ front stop fault, (Cursor.start bytes).Ends front stop fault →
    ∀ count, 0 < count →
      (∀ batch, decodeExactly count bytes = .ok batch ↔
        decode bytes = .ok batch ∧ batch.size = count) ∧
      (count ≤ front.length →
        ∃ after, Cursor.Reads (Cursor.start bytes) (front.take count) after ∧
          (count < front.length ∨ after.offset < bytes.length →
            decodeExactly count bytes =
              .error (.trailing after.offset (bytes.length - after.offset)))) ∧
      (front.length < count →
        (∀ offset needed remaining, decode bytes = .error (.truncated offset needed remaining) →
          decodeExactly count bytes = .error (.truncated offset needed remaining)) ∧
        (bytes = [] ∨ (∃ batch, decode bytes = .ok batch) →
          decodeExactly count bytes = .error (.truncated bytes.length headerSize 0))) := by
  refine ⟨rfl, fun error hdecode => ?_, Cursor.exists_ends _, fun front stop fault ends count
    positive => ⟨fun batch => ?_, fun hcount => ?_, fun hcount => ⟨?_, ?_⟩⟩⟩
  · split
    · rename_i hbytes
      subst hbytes
      exact (Except.error.inj hdecode).symm
    · rename_i hbytes
      obtain ⟨front, stop, fault, ends⟩ := Cursor.exists_ends (Cursor.start bytes)
      rw [error_eq_of_ends ends hbytes hdecode]
      exact ends.lacks.exists_truncated
  · rw [decodeExactly_eq_ok_iff, and_comm]
  · obtain ⟨after, hfirst, hsecond, htrailing⟩ := decodeExactly_of_le ends positive hcount
    have hlength := Cursor.length_of_reads_start hfirst
    refine ⟨after, hfirst, fun hmore => ?_⟩
    rw [htrailing ?_, Cursor.remaining, ← hlength, Nat.add_sub_cancel_left]
    intro hnil
    rcases hmore with hless | hleft
    · -- another instruction is read behind, so bytes are left for it
      obtain ⟨hnone, -⟩ := (Cursor.reads_iff_of_rest_nil hnil _ _).mp hsecond
      have := List.drop_eq_nil_iff.mp hnone
      omega
    · rw [hnil, List.length_nil] at hlength
      omega
  · intro offset needed remaining hdecode
    have hbytes : bytes ≠ [] := by
      rintro rfl
      cases hdecode
    rw [decodeExactly_of_gt ends hcount, error_eq_of_ends ends hbytes hdecode]
  · intro hwhole
    have hrest := (rest_eq_nil_iff_of_ends ends).mpr hwhole
    have hlength := Cursor.length_of_reads_start ends.reads
    rw [hrest, List.length_nil, Nat.add_zero] at hlength
    have hfault := ends.fault
    rw [Cursor.next_of_rest_nil hrest, hlength] at hfault
    rw [decodeExactly_of_gt ends hcount, ← Except.error.inj hfault]

end Wire

end GovernanceRelay
