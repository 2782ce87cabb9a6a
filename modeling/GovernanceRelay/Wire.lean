import GovernanceRelay.Instruction

/-!
# The wire format of batches

Each instruction is written as its target (20 bytes), its amount (12 bytes), the length of its
payload (4 bytes), both numbers with the most significant byte first, and then the payload;
instructions follow each other without separators. Reading goes through a cursor that moves past an
instruction when it is complete and otherwise stays where it is.
-/

set_option autoImplicit false

namespace GovernanceRelay

/-- The number of bytes in front of a payload. -/
def headerSize : Nat := 36

/-- A field of an instruction that can be too large for the wire. -/
inductive WireField where
  /-- The amount. -/
  | value
  /-- The length of the payload. -/
  | payloadLength
deriving DecidableEq, Repr

/-- Why a batch cannot be written or a byte string cannot be read. -/
inductive WireError where
  /-- Fewer bytes remain at an offset than the header or the payload there needs. -/
  | truncated (offset needed remaining : Nat)
  /-- Bytes remain behind the last instruction. -/
  | trailing (offset remaining : Nat)
  /-- A field of the instruction at an index is too large. -/
  | overflow (index : Nat) (field : WireField)
  /-- There is no instruction. -/
  | emptyBatch
deriving DecidableEq, Repr

/-- The wording of each fault. -/
def WireError.message : WireError → String
  | .truncated offset needed remaining =>
    "Truncated input at offset " ++ toString offset ++ ": need " ++ toString needed ++ " bytes, "
      ++ toString remaining ++ " remaining"
  | .trailing offset remaining =>
    "Trailing bytes: " ++ toString remaining ++ " unconsumed at offset " ++ toString offset
  | .overflow index .value =>
    "Field overflow in instruction " ++ toString index ++ ": value does not fit 96 bits"
  | .overflow index .payloadLength =>
    "Field overflow in instruction " ++ toString index ++ ": payload length does not fit 32 bits"
  | .emptyBatch => Batch.emptyMessage

namespace Instruction

/-- The bytes of an instruction; amounts and lengths beyond the fields lose their high digits. -/
def toWire (instruction : Instruction) : Bytes :=
  instruction.target.bytes ++ Bytes.bigEndian 12 instruction.value.toNat
    ++ Bytes.bigEndian 4 instruction.payload.length ++ instruction.payload

/-- The first field of an instruction that is too large for the wire. -/
def overflow? (instruction : Instruction) : Option WireField :=
  if Instruction.valueBound ≤ instruction.value.toNat then some .value
  else if Instruction.lengthBound ≤ instruction.payload.length then some .payloadLength
  else none

/-- The number of bytes that an instruction takes. -/
def wireSize (instruction : Instruction) : Nat := headerSize + instruction.payload.length

end Instruction

namespace Wire

/-- The first instruction that does not fit the wire, counted from an index. -/
def overflowFrom (index : Nat) : List Instruction → Option WireError
  | [] => none
  | instruction :: rest =>
    match instruction.overflow? with
    | some field => some (.overflow index field)
    | none => overflowFrom (index + 1) rest

/-- The number of bytes that a batch takes. -/
def encodedSize (batch : Batch) : Nat :=
  batch.instructions.foldl (fun total instruction => total + instruction.wireSize) 0

/-- Write a batch. -/
def encode (batch : Batch) : Except WireError Bytes :=
  match overflowFrom 0 batch.instructions with
  | some error => .error error
  | none => .ok (batch.instructions.flatMap Instruction.toWire)

/-- A position in a byte string that is being read. -/
structure Cursor where
  /-- The number of bytes read. -/
  offset : Nat
  /-- The bytes not read. -/
  rest : Bytes
deriving DecidableEq

namespace Cursor

/-- The cursor at the front of a byte string. -/
def start (bytes : Bytes) : Cursor := ⟨0, bytes⟩

/-- The number of bytes not read. -/
def remaining (cursor : Cursor) : Nat := cursor.rest.length

/-- Whether everything has been read. -/
def isFinished (cursor : Cursor) : Bool := cursor.rest.isEmpty

/-- Read the next instruction and move past it. -/
def next (cursor : Cursor) : Except WireError (Instruction × Cursor) :=
  let header := cursor.rest.take headerSize
  match (FixedBytes.split? header : Option (Address × Bytes)) with
  | some (target, fields) =>
    if fields.length < 16 then
      .error (.truncated cursor.offset headerSize cursor.remaining)
    else
      let value := Bytes.value (fields.take 12)
      let length := Bytes.value (fields.drop 12)
      let body := cursor.rest.drop headerSize
      let payload := body.take length
      if payload.length < length then
        .error (.truncated (cursor.offset + headerSize) length body.length)
      else
        .ok (⟨target, BitVec.ofNat 128 value, payload⟩,
          ⟨cursor.offset + headerSize + length, body.drop length⟩)
  | none => .error (.truncated cursor.offset headerSize cursor.remaining)

/-- Accept the end of the input only. -/
def finish (cursor : Cursor) : Except WireError Unit :=
  if cursor.isFinished then .ok () else .error (.trailing cursor.offset cursor.remaining)

/-- Read instructions to the end of the input, at most `limit` of them, and put them after those
already read. -/
def readAll : Nat → List Instruction → Cursor → Except WireError (List Instruction)
  | 0, read, _ => .ok read.reverse
  | limit + 1, read, cursor =>
    if cursor.isFinished then .ok read.reverse
    else
      match cursor.next with
      | .error error => .error error
      | .ok (instruction, cursor) => readAll limit (instruction :: read) cursor

/-- Read a stated number of instructions and put them after those already read. -/
def readMany : Nat → List Instruction → Cursor → Except WireError (List Instruction × Cursor)
  | 0, read, cursor => .ok (read.reverse, cursor)
  | count + 1, read, cursor =>
    match cursor.next with
    | .error error => .error error
    | .ok (instruction, cursor) => readMany count (instruction :: read) cursor

end Cursor

/-- The batch of the instructions read. -/
def batchOf (instructions : List Instruction) : Except WireError Batch :=
  match Batch.ofList? instructions with
  | some batch => .ok batch
  | none => .error .emptyBatch

/-- Read a batch that fills the byte string. Each instruction takes bytes, so there are no more
instructions than bytes. -/
def decode (bytes : Bytes) : Except WireError Batch :=
  if bytes.isEmpty then .error .emptyBatch
  else
    match Cursor.readAll bytes.length [] (Cursor.start bytes) with
    | .error error => .error error
    | .ok instructions => batchOf instructions

/-- Read a batch of a stated number of instructions that fills the byte string. -/
def decodeExactly (count : Nat) (bytes : Bytes) : Except WireError Batch :=
  if count = 0 then .error .emptyBatch
  else
    match Cursor.readMany count [] (Cursor.start bytes) with
    | .error error => .error error
    | .ok (instructions, cursor) =>
      match cursor.finish with
      | .error error => .error error
      | .ok () => batchOf instructions

end Wire

end GovernanceRelay
