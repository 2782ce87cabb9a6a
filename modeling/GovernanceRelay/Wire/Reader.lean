import GovernanceRelay.Wire

/-!
# Reading by places

A reader keeps a whole byte string and the number of bytes read, and computes from both where the
fields of the next instruction stand. Such a computation can go wrong by itself, whatever the bytes
say: a difference is below zero, a place lies behind the end, a range is not inside the bytes, or a
field is filled with a wrong number of bytes. Every one of these is checked here and stops the
computation with a `PlaceFault`. What is missing in the bytes is no such fault, but the answer to a
call, and the reader is handed on with it. At every place there is a cursor (`Reader.view`), which
keeps the bytes behind it and computes no places.
-/

set_option autoImplicit false

namespace GovernanceRelay

namespace Wire

/-- What stops a computation with places in a byte string. -/
inductive PlaceFault where
  /-- More is taken away from a number than there is. -/
  | underflow (whole part : Nat)
  /-- A place lies behind the end of the bytes. -/
  | beyond (place distance length : Nat)
  /-- A range ends before it begins or behind the end of the bytes. -/
  | range (first last length : Nat)
  /-- A field is filled with another number of bytes than it has. -/
  | width (field given : Nat)
deriving DecidableEq, Repr

/-- A difference that must not be below zero. -/
def minus (whole part : Nat) : Except PlaceFault Nat :=
  if part ≤ whole then .ok (whole - part) else .error (.underflow whole part)

/-- The place at a distance from another one. It must not lie behind the end, so it fits every word
that the number of bytes fits. -/
def ahead (bytes : Bytes) (place distance : Nat) : Except PlaceFault Nat :=
  if place + distance ≤ bytes.length then .ok (place + distance)
  else .error (.beyond place distance bytes.length)

/-- The bytes from one place to another. -/
def slice (bytes : Bytes) (first last : Nat) : Except PlaceFault Bytes :=
  if first ≤ last ∧ last ≤ bytes.length then .ok ((bytes.drop first).take (last - first))
  else .error (.range first last bytes.length)

/-- A field filled with bytes, of which there must be as many as it has. -/
def fill {width : Nat} (bytes : Bytes) : Except PlaceFault (FixedBytes width) :=
  match FixedBytes.ofBytes? bytes with
  | some field => .ok field
  | none => .error (.width width bytes.length)

theorem ok_bind {α β : Type} (value : α) (later : α → Except PlaceFault β) :
    (Except.ok value >>= later) = later value := rfl

theorem minus_of_le {whole part : Nat} (h : part ≤ whole) :
    minus whole part = .ok (whole - part) := if_pos h

theorem ahead_of_le {bytes : Bytes} {place distance : Nat}
    (h : place + distance ≤ bytes.length) : ahead bytes place distance = .ok (place + distance) :=
  if_pos h

theorem slice_of_le {bytes : Bytes} {first last : Nat} (ordered : first ≤ last)
    (inside : last ≤ bytes.length) :
    slice bytes first last = .ok ((bytes.drop first).take (last - first)) :=
  if_pos ⟨ordered, inside⟩

theorem fill_bytes {width : Nat} (field : FixedBytes width) : fill field.bytes = .ok field := by
  rw [fill, FixedBytes.ofBytes?_bytes]

/-- The fields in front of a payload. -/
structure Header where
  /-- The account called. -/
  target : Address
  /-- The amount sent along. -/
  value : FixedBytes 12
  /-- The length of the payload. -/
  length : FixedBytes 4

namespace Header

/-- The fields in order. -/
def bytes (header : Header) : Bytes :=
  header.target.bytes ++ (header.value.bytes ++ header.length.bytes)

/-- The fields cut out of their bytes one after the other. -/
def cut (bytes : Bytes) : Except PlaceFault Header := do
  let target ← fill (← slice bytes 0 20)
  let value ← fill (← slice bytes 20 32)
  let length ← fill (← slice bytes 32 bytes.length)
  return ⟨target, value, length⟩

/-- The length that the header states for the payload. -/
def payloadLength (header : Header) : Nat := Bytes.value header.length.bytes

/-- The instruction with a payload behind the header. -/
def instruction (header : Header) (payload : Bytes) : Instruction :=
  ⟨header.target, BitVec.ofNat 128 (Bytes.value header.value.bytes), payload⟩

end Header

/-- A byte string with the number of its bytes that were read. -/
structure Reader where
  /-- The whole byte string. -/
  buffer : Bytes
  /-- The number of bytes read. -/
  offset : Nat
deriving DecidableEq

/-- How far reading to the end has come. -/
inductive Progress where
  /-- Instructions were read, and the reader stands behind them. -/
  | further (read : List Instruction) (reader : Reader)
  /-- There is nothing left, or something is missing. -/
  | ended (result : Except WireError (List Instruction))

namespace Reader

/-- The reader at the front of a byte string. -/
def start (bytes : Bytes) : Reader := ⟨bytes, 0⟩

/-- The cursor at the place of a reader. -/
def view (reader : Reader) : Cursor := ⟨reader.offset, reader.buffer.drop reader.offset⟩

/-- The number of bytes not read. -/
def remaining (reader : Reader) : Except PlaceFault Nat :=
  minus reader.buffer.length reader.offset

/-- Whether everything has been read. -/
def isFinished (reader : Reader) : Except PlaceFault Bool := do
  return (← reader.remaining) == 0

/-- The answer to a call for the next instruction, and the reader after the call. The stated length
of the payload is compared with the bytes that there are before a place is computed from it. -/
def next (reader : Reader) : Except PlaceFault (Except WireError Instruction × Reader) := do
  let remaining ← reader.remaining
  if remaining < headerSize then
    return (.error (.truncated reader.offset headerSize remaining), reader)
  else
    let body ← ahead reader.buffer reader.offset headerSize
    let header ← Header.cut (← slice reader.buffer reader.offset body)
    let available ← minus remaining headerSize
    if available < header.payloadLength then
      return (.error (.truncated body header.payloadLength available), reader)
    else
      let last ← ahead reader.buffer body header.payloadLength
      let payload ← slice reader.buffer body last
      return (.ok (header.instruction payload), { reader with offset := last })

/-- The answers to a number of calls one after the other, and the reader after the last. -/
def calls : Nat → Reader → Except PlaceFault (List (Except WireError Instruction) × Reader)
  | 0, reader => return ([], reader)
  | count + 1, reader => do
    let (answer, after) ← reader.next
    let (answers, last) ← calls count after
    return (answer :: answers, last)

/-- One turn of reading to the end: unless nothing is left, the next instruction is read and put
behind the others. -/
def turn (read : List Instruction) (reader : Reader) : Except PlaceFault Progress := do
  if ← reader.isFinished then
    return .ended (.ok read)
  else
    match ← reader.next with
    | (.ok instruction, after) => return .further (read ++ [instruction]) after
    | (.error error, _) => return .ended (.error error)

/-- Turns one after the other until reading has ended, at most a number of them. -/
def turns : Nat → List Instruction → Reader → Except PlaceFault Progress
  | 0, read, reader => return .further read reader
  | limit + 1, read, reader => do
    match ← turn read reader with
    | .further read after => turns limit read after
    | .ended result => return .ended result

end Reader

end Wire

end GovernanceRelay
