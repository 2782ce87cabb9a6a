import GovernanceRelay.Identifier

/-!
# Calls and batches

An instruction is one call: whom to call, how much to send along, and what to say. A batch is a
list of at least one instruction, to be carried out in order.
-/

set_option autoImplicit false

namespace GovernanceRelay

/-- The number of a chain. -/
abbrev ChainId := UInt64

/-- An amount of the native coin. -/
abbrev Amount := BitVec 128

/-- One call. -/
structure Instruction where
  /-- The account called. -/
  target : Address
  /-- The amount sent along. -/
  value : Amount
  /-- The selector of the function and its arguments. -/
  payload : Bytes
deriving DecidableEq

namespace Instruction

/-- The call of a function with encoded arguments and no amount. -/
def call (target : Address) (selector : Selector) (arguments : Bytes) : Instruction :=
  ⟨target, 0, selector.bytes ++ arguments⟩

/-- The function called, unless the payload is too short to name one. -/
def selector? (instruction : Instruction) : Option Selector :=
  Selector.ofPayload? instruction.payload

/-- The amount has to fit twelve bytes. -/
def valueBound : Nat := Nat.pow 2 96

/-- The length of the payload has to fit four bytes. -/
def lengthBound : Nat := UInt32.size

/-- Whether the instruction can be written in the wire format. -/
def fitsWire (instruction : Instruction) : Bool :=
  instruction.value.toNat < valueBound && instruction.payload.length < lengthBound

/-- The instruction as shown inside a larger value. -/
def inspect (instruction : Instruction) : String :=
  let bytes := ", ".intercalate (instruction.payload.map fun byte => toString byte.toNat)
  "Instruction \x7b target: " ++ instruction.target.inspect ++ ", value: "
    ++ toString instruction.value.toNat ++ ", payload: [" ++ bytes ++ "] \x7d"

end Instruction

/-- Instructions between brackets, as shown inside a larger value. -/
def inspectInstructions (instructions : List Instruction) : String :=
  "[" ++ ", ".intercalate (instructions.map Instruction.inspect) ++ "]"

/-- One or more instructions, to be carried out in order. -/
structure Batch where
  /-- The instructions in order. -/
  instructions : List Instruction
  /-- There is at least one. -/
  nonempty : instructions ≠ []
deriving DecidableEq

namespace Batch

/-- The wording of the fault that there is no instruction. -/
def emptyMessage : String := "Batch must contain at least one instruction"

/-- The batch of a list that has an instruction. -/
def ofList? (instructions : List Instruction) : Option Batch :=
  if h : instructions ≠ [] then some ⟨instructions, h⟩ else none

/-- The batch of one instruction. -/
def single (instruction : Instruction) : Batch := ⟨[instruction], by simp⟩

/-- The number of instructions. -/
def size (batch : Batch) : Nat := batch.instructions.length

/-- The batch as shown inside a larger value. -/
def inspect (batch : Batch) : String :=
  "Batch \x7b instructions: " ++ inspectInstructions batch.instructions ++ " \x7d"

/-- Batches of the same instructions are equal. -/
theorem ext {left right : Batch} (h : left.instructions = right.instructions) : left = right := by
  cases left; cases right; cases h; rfl

theorem ofList?_instructions (batch : Batch) : ofList? batch.instructions = some batch := by
  simp [ofList?, batch.nonempty]

theorem instructions_of_ofList? {instructions : List Instruction} {batch : Batch}
    (h : ofList? instructions = some batch) : batch.instructions = instructions := by
  unfold ofList? at h
  split at h
  · exact (Option.some.inj h) ▸ rfl
  · cases h

end Batch

end GovernanceRelay
