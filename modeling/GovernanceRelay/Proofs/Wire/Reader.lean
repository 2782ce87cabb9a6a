import GovernanceRelay.Wire.Reader
import GovernanceRelay.Proofs.Wire.Ending

/-!
# Reading by places is safe and gets on

A reader that stands inside its bytes is never stopped, and answers a call by what a cursor at its
place reads (`Reader.next_eq`). So a call either moves it over the written form of an instruction,
which ends inside the bytes, or leaves it where it is (`Reader.next_cases`), and by induction no
number of calls leads it out of the bytes (`Reader.calls_inside`). Reading to the end takes a turn
for each instruction that is read, and one in which it ends (`Reader.turns_of_ends`). As a written
form is no shorter than a header, the number of bytes bounds that of the turns which read an
instruction; a fragment behind the last one takes one turn more (`Reader.safe_and_bounded`).
-/

set_option autoImplicit false

namespace GovernanceRelay

namespace Wire

namespace Header

theorem length_bytes (header : Header) : header.bytes.length = headerSize := by
  simp only [bytes, List.length_append, header.target.length_bytes, header.value.length_bytes,
    header.length.length_bytes, headerSize]

/-- The fields are cut out of where they stand. -/
theorem cut_bytes (header : Header) : cut header.bytes = .ok header := by
  have hlength : header.bytes.length = 36 := header.length_bytes
  have htarget : slice header.bytes 0 20 = .ok header.target.bytes := by
    rw [slice_of_le (by omega) (by omega), bytes]
    exact congrArg _ (List.take_left' header.target.length_bytes)
  have hvalue : slice header.bytes 20 32 = .ok header.value.bytes := by
    rw [slice_of_le (by omega) (by omega), bytes, List.drop_left' header.target.length_bytes]
    exact congrArg _ (List.take_left' header.value.length_bytes)
  have hlast : slice header.bytes 32 header.bytes.length = .ok header.length.bytes := by
    rw [slice_of_le (by omega) (Nat.le_refl _), hlength, bytes, ← List.append_assoc,
      List.drop_left' (by
        rw [List.length_append, header.target.length_bytes, header.value.length_bytes])]
    exact congrArg _ (List.take_of_length_le (Nat.le_of_eq header.length.length_bytes))
  simp only [cut, htarget, hvalue, hlast, ok_bind, fill_bytes]
  rfl

/-- At least as many bytes as a header has begin with one. -/
theorem exists_append {rest : Bytes} (long : headerSize ≤ rest.length) :
    ∃ (header : Header) (body : Bytes), rest = header.bytes ++ body := by
  rw [headerSize] at long
  refine ⟨⟨⟨rest.take 20, ?_⟩, ⟨(rest.drop 20).take 12, ?_⟩,
    ⟨((rest.drop 20).drop 12).take 4, ?_⟩⟩, ((rest.drop 20).drop 12).drop 4, ?_⟩
  · rw [List.length_take]
    omega
  · rw [List.length_take, List.length_drop]
    omega
  · rw [List.length_take, List.length_drop, List.length_drop]
    omega
  · simp only [bytes, List.append_assoc, List.take_append_drop]

end Header

/-- Behind a header a cursor reads its instruction if there are as many bytes as it states. -/
theorem Cursor.next_of_header (header : Header) (offset : Nat) (body : Bytes) :
    next ⟨offset, header.bytes ++ body⟩ =
      if body.length < header.payloadLength then
        .error (.truncated (offset + headerSize) header.payloadLength body.length)
      else
        .ok (header.instruction (body.take header.payloadLength),
          ⟨offset + headerSize + header.payloadLength, body.drop header.payloadLength⟩) := by
  have hsplit : FixedBytes.split? header.bytes =
      some (header.target, header.value.bytes ++ header.length.bytes) :=
    FixedBytes.split?_append _ _
  have hfields : ¬ (header.value.bytes ++ header.length.bytes).length < 16 := by
    rw [List.length_append, header.value.length_bytes, header.length.length_bytes]
    omega
  have hstated : Bytes.value header.length.bytes = header.payloadLength := rfl
  simp only [next, List.take_left' header.length_bytes, List.drop_left' header.length_bytes, hsplit,
    if_neg hfields, List.take_left' header.value.length_bytes,
    List.drop_left' header.value.length_bytes, hstated, List.length_take]
  by_cases lacking : body.length < header.payloadLength
  · rw [if_pos lacking, if_pos (by omega)]
  · rw [if_neg lacking, if_neg (by omega), Header.instruction]

namespace Reader

variable {reader : Reader}

section Inside

variable (inside : reader.offset ≤ reader.buffer.length)

include inside

theorem remaining_of_inside :
    reader.remaining = .ok (reader.buffer.length - reader.offset) :=
  minus_of_le inside

theorem isFinished_of_inside :
    reader.isFinished = .ok reader.view.isFinished := by
  rw [isFinished, remaining_of_inside inside, view, Cursor.isFinished]
  refine congrArg Except.ok (Bool.eq_iff_iff.mpr ?_)
  rw [beq_iff_eq, List.isEmpty_iff, List.drop_eq_nil_iff, Nat.sub_eq_zero_iff_le]

/-- Where fewer bytes are left than a header has, a call is answered so. -/
theorem next_of_short (short : reader.buffer.length - reader.offset < headerSize) :
    reader.next = .ok (.error (.truncated reader.offset headerSize
      (reader.buffer.length - reader.offset)), reader) := by
  simp only [next, remaining_of_inside inside, ok_bind, if_pos short]
  rfl

/-- A header in front of a reader is read if there are as many bytes behind it as it states. -/
theorem next_of_header {header : Header} {body : Bytes}
    (hrest : reader.buffer.drop reader.offset = header.bytes ++ body) :
    reader.next = .ok (
      if body.length < header.payloadLength then
        (.error (.truncated (reader.offset + headerSize) header.payloadLength body.length), reader)
      else
        (.ok (header.instruction (body.take header.payloadLength)),
          { reader with offset := reader.offset + headerSize + header.payloadLength })) := by
  have hlength := congrArg List.length hrest
  rw [List.length_drop, List.length_append, header.length_bytes] at hlength
  have hheader : slice reader.buffer reader.offset (reader.offset + headerSize) =
      .ok header.bytes := by
    rw [slice_of_le (by omega) (by omega), hrest, Nat.add_sub_cancel_left,
      List.take_left' header.length_bytes]
  have hbody : reader.buffer.drop (reader.offset + headerSize) = body := by
    rw [← List.drop_drop, hrest, List.drop_left' header.length_bytes]
  simp only [next, remaining_of_inside inside, ok_bind, hlength,
    if_neg (Nat.not_lt.mpr (Nat.le_add_right headerSize body.length)),
    ahead_of_le (show reader.offset + headerSize ≤ reader.buffer.length by omega), hheader,
    header.cut_bytes, minus_of_le (Nat.le_add_right headerSize body.length),
    Nat.add_sub_cancel_left]
  split
  · rfl
  · rename_i enough
    -- the stated length was compared with what is there, so the payload is inside too
    have hlast : reader.offset + headerSize + header.payloadLength ≤ reader.buffer.length := by
      omega
    simp only [ahead_of_le hlast, ok_bind, slice_of_le (Nat.le_add_right _ _) hlast, hbody,
      Nat.add_sub_cancel_left]
    rfl

/-- A reader answers what the cursor at its place reads, and moves as it does. -/
theorem next_eq :
    reader.next = .ok (
      match reader.view.next with
      | .ok (instruction, after) => (.ok instruction, { reader with offset := after.offset })
      | .error error => (.error error, reader)) := by
  have hremaining : (reader.buffer.drop reader.offset).length =
      reader.buffer.length - reader.offset := List.length_drop
  rcases Nat.lt_or_ge (reader.buffer.length - reader.offset) headerSize with short | long
  · have hnext : reader.view.next = .error (.truncated reader.offset headerSize
        (reader.buffer.drop reader.offset).length) :=
      Cursor.next_of_short (show (reader.buffer.drop reader.offset).length < headerSize by
        rwa [hremaining])
    rw [next_of_short inside short, hnext, hremaining]
  · obtain ⟨header, body, hrest⟩ := Header.exists_append (hremaining ▸ long)
    rw [next_of_header inside hrest, view, hrest, Cursor.next_of_header]
    split
    · rfl
    · rfl

end Inside

/-- A call moves a reader over the written form of an instruction. -/
structure Moves (reader : Reader) (instruction : Instruction) (after : Reader) : Prop where
  /-- The bytes are the same. -/
  buffer : after.buffer = reader.buffer
  /-- The bytes read are more by a header and the payload. -/
  offset : after.offset = reader.offset + headerSize + instruction.payload.length
  /-- They are not more than there are. -/
  inside : after.offset ≤ after.buffer.length
  /-- What was moved over is the written form of the instruction. -/
  written : ∃ written, slice reader.buffer reader.offset after.offset = .ok written ∧
    encode (.single instruction) = .ok written

section View

variable {instruction : Instruction} {place : Cursor}
  (hview : reader.view.next = .ok (instruction, place))

include hview

/-- The bytes behind the instruction are those that the cursor has left. -/
theorem view_of_view_next : view ⟨reader.buffer, place.offset⟩ = place := by
  obtain ⟨-, (hrest : reader.buffer.drop reader.offset = _),
    (hplace : _ = reader.offset + _)⟩ := Cursor.toWire_of_next hview
  rw [view, hplace, ← List.drop_drop, hrest, List.drop_left' instruction.length_toWire, ← hplace]

/-- The cursor moves over the written form of the instruction, which ends inside the bytes. -/
theorem moves_of_view_next (inside : reader.offset ≤ reader.buffer.length) :
    reader.Moves instruction ⟨reader.buffer, place.offset⟩ := by
  obtain ⟨hfits, (hrest : reader.buffer.drop reader.offset = _),
    (hplace : _ = reader.offset + _)⟩ := Cursor.toWire_of_next hview
  -- the written form is part of the bytes that are left, so it ends where they end or before
  have hlast : place.offset ≤ reader.buffer.length := by
    have hlength := congrArg List.length hrest
    rw [List.length_drop, List.length_append, instruction.length_toWire] at hlength
    omega
  have hslice : slice reader.buffer reader.offset place.offset = .ok instruction.toWire := by
    rw [slice_of_le (by omega) hlast, hrest, hplace, Nat.add_sub_cancel_left,
      List.take_left' instruction.length_toWire]
  refine ⟨rfl, ?_, hlast, instruction.toWire, hslice, (encode_eq_ok_iff _ _).mpr ⟨?_, ?_⟩⟩
  · rw [hplace, Instruction.wireSize, Nat.add_assoc]
  · exact List.forall_mem_singleton.mpr hfits
  · exact (List.flatMap_singleton _ _).symm

end View

/-- A call either moves the reader over an instruction or leaves it where it is. -/
theorem next_cases (inside : reader.offset ≤ reader.buffer.length) :
    (∃ instruction after, reader.view.next = .ok (instruction, after.view) ∧
      reader.next = .ok (.ok instruction, after) ∧ reader.Moves instruction after) ∨
    ∃ error, reader.view.next = .error error ∧ reader.next = .ok (.error error, reader) := by
  have hnext := next_eq inside
  cases hview : reader.view.next with
  | error error =>
    rw [hview] at hnext
    exact .inr ⟨error, rfl, hnext⟩
  | ok pair =>
    obtain ⟨instruction, place⟩ := pair
    rw [hview] at hnext
    refine .inl ⟨instruction, ⟨reader.buffer, place.offset⟩, ?_, hnext,
      moves_of_view_next hview inside⟩
    rw [view_of_view_next hview]

-- behind the end a reader could not even tell how many bytes are left
example : next ⟨[], 1⟩ = .error (.underflow 0 1) := rfl

/-! ## Calls one after the other -/

theorem calls_succ {answer : Except WireError Instruction} {after last : Reader} {count : Nat}
    {answers : List (Except WireError Instruction)} (hnext : reader.next = .ok (answer, after))
    (hcalls : after.calls count = .ok (answers, last)) :
    reader.calls (count + 1) = .ok (answer :: answers, last) := by
  simp only [calls, hnext, hcalls, ok_bind]
  rfl

/-- However many calls are made, none is stopped, and the reader stays inside the same bytes. -/
theorem calls_inside (inside : reader.offset ≤ reader.buffer.length) (count : Nat) :
    ∃ answers last, reader.calls count = .ok (answers, last) ∧ last.buffer = reader.buffer ∧
      last.offset ≤ last.buffer.length := by
  -- the first call keeps the reader inside, and the others are made of the reader that it hands on
  induction count generalizing reader with
  | zero => exact ⟨[], reader, rfl, rfl, inside⟩
  | succ count ih =>
    rcases next_cases inside with ⟨instruction, after, -, hnext, moves⟩ | ⟨error, -, hnext⟩
    · obtain ⟨answers, last, hcalls, hbuffer, hlast⟩ := ih moves.inside
      exact ⟨_, last, calls_succ hnext hcalls, hbuffer.trans moves.buffer, hlast⟩
    · obtain ⟨answers, last, hcalls, hbuffer, hlast⟩ := ih inside
      exact ⟨_, last, calls_succ hnext hcalls, hbuffer, hlast⟩

/-- A call that leaves the reader where it is makes all later ones do so, with the same answer. -/
theorem calls_of_error {error : WireError} (hnext : reader.next = .ok (.error error, reader))
    (count : Nat) : reader.calls count = .ok (List.replicate count (.error error), reader) := by
  induction count with
  | zero => rfl
  | succ count ih => exact calls_succ hnext ih

/-! ## Reading to the end -/

/-- A turn in front of an instruction reads it. -/
theorem turn_of_ok (inside : reader.offset ≤ reader.buffer.length) {instruction : Instruction}
    {after : Reader} (hview : reader.view.next = .ok (instruction, after.view))
    (hnext : reader.next = .ok (.ok instruction, after)) (read : List Instruction) :
    turn read reader = .ok (.further (read ++ [instruction]) after) := by
  have hfinished : reader.view.isFinished = false := by
    rw [Cursor.isFinished, List.isEmpty_eq_false_iff]
    intro hnil
    rw [Cursor.next_of_rest_nil hnil] at hview
    cases hview
  simp only [turn, isFinished_of_inside inside, hfinished, ok_bind, hnext]
  rfl

/-- A turn where no instruction can be read is the last. -/
theorem turn_of_error (inside : reader.offset ≤ reader.buffer.length) {fault : WireError}
    (hview : reader.view.next = .error fault) (read : List Instruction) :
    turn read reader =
      .ok (.ended (if reader.view.rest = [] then .ok read else .error fault)) := by
  have hnext := next_eq inside
  rw [hview] at hnext
  simp only [turn, isFinished_of_inside inside, ok_bind, hnext, Cursor.isFinished,
    List.isEmpty_iff]
  split
  · rfl
  · rfl

/-- Reading to the end takes a turn for each instruction and ends in the next one. -/
theorem turns_of_ends {front : List Instruction} {stop : Cursor} {fault : WireError}
    (inside : reader.offset ≤ reader.buffer.length) (ends : reader.view.Ends front stop fault)
    (read : List Instruction) (limit : Nat) :
    if limit ≤ front.length then
      ∃ after, turns limit read reader = .ok (.further (read ++ front.take limit) after)
    else
      turns limit read reader =
        .ok (.ended (if stop.rest = [] then .ok (read ++ front) else .error fault)) := by
  -- one turn takes the first instruction off those in front and puts it behind those read
  induction front generalizing reader read limit with
  | nil =>
    obtain ⟨reads, hfault⟩ := ends
    cases reads
    cases limit with
    | zero => exact ⟨reader, by rw [List.take_nil, List.append_nil]; rfl⟩
    | succ limit =>
      rw [if_neg (by simp), turns, turn_of_error inside hfault, List.append_nil]
      rfl
  | cons instruction rest ih =>
    obtain ⟨reads, hfault⟩ := ends
    cases reads with
    | cons hfirst hrest =>
      rcases next_cases inside with ⟨first, after, hview, hnext, moves⟩ | ⟨error, hview, -⟩
      · obtain ⟨rfl, rfl⟩ : first = instruction ∧ after.view = _ := by
          rw [hview] at hfirst
          exact Prod.mk.inj (Except.ok.inj hfirst)
        cases limit with
        | zero => exact ⟨reader, by rw [List.take_zero, List.append_nil]; rfl⟩
        | succ limit =>
          have hlater := ih moves.inside ⟨hrest, hfault⟩ (read ++ [first]) limit
          simp only [List.append_assoc, List.singleton_append] at hlater
          simp only [turns, turn_of_ok inside hview hnext, ok_bind, List.length_cons,
            Nat.add_le_add_iff_right, List.take_succ_cons]
          exact hlater
      · rw [hview] at hfirst
        cases hfirst

/-- Each instruction that is read takes at least a header. -/
theorem header_le_of_reads {cursor stop : Cursor} {front : List Instruction}
    (reads : Cursor.Reads cursor front stop) :
    cursor.offset + headerSize * front.length ≤ stop.offset := by
  induction reads with
  | nil cursor => exact Nat.le_refl _
  | cons hnext _ ih =>
    rw [(Cursor.toWire_of_next hnext).2.2, Instruction.wireSize] at ih
    rw [List.length_cons, Nat.mul_succ]
    omega

/-- What reading to the end comes to is what a byte string is read as. -/
theorem decode_of_ends {bytes : Bytes} {front : List Instruction} {stop : Cursor}
    {fault : WireError} (ends : (Cursor.start bytes).Ends front stop fault) :
    decode bytes =
      Except.bind (if stop.rest = [] then .ok front else .error fault) batchOf := by
  split
  · rename_i hstop
    rw [Except.bind, decode,
      (Cursor.readAll_start_eq_ok_iff bytes front).mpr ⟨stop, ends.reads, hstop⟩]
    split
    · -- without bytes no instruction is read, and there is no batch either way
      rename_i hempty
      rw [List.isEmpty_iff.mp hempty] at ends
      obtain ⟨rfl, -⟩ := (Cursor.reads_iff_of_rest_nil rfl _ _).mp ends.reads
      rfl
    · rfl
  · rename_i hstop
    exact decode_eq_error_of_ends ends hstop

/-- Reading by places is safe, gets on and stops. After any number of calls none of them was stopped
by a place that is not there, the reader stands inside the bytes, and the number of bytes left can
be computed. The next call is not stopped either. If it reads an instruction, the reader moves on by
a header and the payload, and the bytes that it moved over are what the instruction is written as.
If not, the reader stays where it is, and every later call is answered by the same error. Reading to
the end has read one more instruction after each turn, until it ends in one that reads none.

The bound of `bytes.length / 36` is on the turns that are completed, each of which reads an
instruction. An input that ends in a fragment aborts one turn more with its error; with that one
they are at most `bytes.length / 36` rounded up. What reading ends with is what the bytes are
decoded as. -/
theorem safe_and_bounded (bytes : Bytes) :
    (∀ count, ∃ answers reader, (start bytes).calls count = .ok (answers, reader) ∧
      reader.buffer = bytes ∧ reader.offset ≤ bytes.length ∧
      reader.remaining = .ok (bytes.length - reader.offset) ∧
      ∃ answer after, reader.next = .ok (answer, after) ∧
        match answer with
        | .ok instruction =>
          after.offset = reader.offset + 36 + instruction.payload.length ∧
            after.offset ≤ bytes.length ∧
            ∃ written, slice bytes reader.offset after.offset = .ok written ∧
              encode (.single instruction) = .ok written
        | .error error =>
          after = reader ∧
            ∀ more, after.calls more = .ok (List.replicate more (.error error), reader)) ∧
    ∃ (front : List Instruction) (result : Except WireError (List Instruction)),
      (∀ limit,
        if limit ≤ front.length then
          ∃ reader, turns limit [] (start bytes) = .ok (.further (front.take limit) reader)
        else turns limit [] (start bytes) = .ok (.ended result)) ∧
      front.length ≤ bytes.length / 36 ∧
      (match result with
        | .ok read => read = front
        | .error _ => front.length + 1 ≤ (bytes.length + 35) / 36) ∧
      decode bytes = result.bind batchOf := by
  have inside : (start bytes).offset ≤ (start bytes).buffer.length := Nat.zero_le _
  constructor
  · intro count
    obtain ⟨answers, reader, hcalls, hbuffer, hreader⟩ := calls_inside inside count
    obtain rfl : reader.buffer = bytes := hbuffer
    refine ⟨answers, reader, hcalls, rfl, hreader, remaining_of_inside hreader, ?_⟩
    rcases next_cases hreader with ⟨instruction, after, -, hnext, moves⟩ | ⟨error, -, hnext⟩
    · exact ⟨.ok instruction, after, hnext, moves.offset, moves.buffer ▸ moves.inside,
        moves.written⟩
    · exact ⟨.error error, reader, hnext, rfl, calls_of_error hnext⟩
  · obtain ⟨front, stop, fault, ends⟩ := Cursor.exists_ends (Cursor.start bytes)
    have hlength := Cursor.length_of_reads_start ends.reads
    have hheaders := header_le_of_reads ends.reads
    rw [Cursor.start, headerSize] at hheaders
    refine ⟨front, if stop.rest = [] then .ok front else .error fault, ?_, ?_, ?_,
      decode_of_ends ends⟩
    · exact fun limit => turns_of_ends inside ends [] limit
    · omega
    · by_cases hstop : stop.rest = []
      · rw [if_pos hstop]
      · -- the turn that fails has bytes in front of it, so it is begun before the end
        have hleft := List.length_pos_iff.mpr hstop
        rw [if_neg hstop]
        show front.length + 1 ≤ (bytes.length + 35) / 36
        omega

end Reader

end Wire

end GovernanceRelay
