import GovernanceRelay.Receiver

/-!
# Receiving over any executor

What the calls of a batch do is up to the chain on which they are made. An executor makes them one
by one in states of its own, and says why if one fails. A receiver over an executor remembers the
same of its messages as one with a recorder, and keeps the same ledger. The recorder is one
executor, and the receiver over it is the receiver with it (`Receiver.receive_toOver`).
-/

set_option autoImplicit false

namespace GovernanceRelay

/-- What makes calls, in states of a type. -/
class Executor (ε : Type) where
  /-- Make a call. A call that fails comes with the reason, and may leave another state as well. -/
  call : ε → Instruction → Option String × ε

/-- Make calls in order until one fails; a failure comes with its index, counted from a given one,
and the reason. -/
def Executor.callFrom {ε : Type} [Executor ε] (index : Nat) (executor : ε) :
    List Instruction → Option (Nat × String) × ε
  | [] => (none, executor)
  | instruction :: rest =>
    match Executor.call executor instruction with
    | (some reason, executor) => (some (index, reason), executor)
    | (none, executor) => callFrom (index + 1) executor rest

/-- Why a delivery over an executor fails. -/
inductive ReceiveFault where
  /-- The sender is not to be believed. -/
  | sender (error : MediatorError)
  /-- The data is no batch. -/
  | undecodable (error : WireError)
  /-- The call at an index failed for a reason. -/
  | callFailed (index : Nat) (reason : String)
deriving DecidableEq

/-- The wording of each fault. -/
def ReceiveFault.message : ReceiveFault → String
  | .sender error => "Sender rejected: " ++ error.message
  | .undecodable error => "Undecodable message: " ++ error.message
  | .callFailed index reason => "Instruction " ++ toString index ++ " failed: " ++ reason

/-- The receiver of batches on a remote chain, over an executor. -/
structure ReceiverOver (ε : Type) where
  /-- The state of the executor. -/
  executor : ε
  /-- The messages carried out. -/
  processed : OrderedSet Digest
  /-- The messages begun, with the number of calls made. -/
  started : OrderedMap Digest Nat

namespace ReceiverOver

variable {ε : Type}

/-- What the receiver remembers, with a fresh recorder. -/
def memory (receiver : ReceiverOver ε) : Receiver :=
  ⟨Recorder.create none, receiver.processed, receiver.started⟩

/-- The receiver that remembers what another one does. -/
def ofMemory (executor : ε) (memory : Receiver) : ReceiverOver ε :=
  ⟨executor, memory.processed, memory.started⟩

/-- A receiver that has received nothing. -/
def create (executor : ε) : ReceiverOver ε :=
  ofMemory executor (Receiver.create (Recorder.create none))

/-- The receiver that goes on from a ledger. -/
def restore (executor : ε) (ledger : Ledger) : ReceiverOver ε :=
  ofMemory executor (Receiver.restore (Recorder.create none) ledger)

/-- The progress of deliveries, in order of the messages. -/
def ledger (receiver : ReceiverOver ε) : Ledger := receiver.memory.ledger

/-- Whether a message was carried out. -/
def isProcessed (receiver : ReceiverOver ε) (id : Digest) : Bool := receiver.memory.isProcessed id

/-- The number of calls made for a message that was begun. -/
def callsDone (receiver : ReceiverOver ε) (id : Digest) : Nat := receiver.memory.callsDone id

variable [Executor ε]

/-- Carry out what remains of a batch on behalf of a message. -/
def carryOut (receiver : ReceiverOver ε) (id : Digest) (instructions : List Instruction) :
    Except ReceiveFault ReceiveOutcome × ReceiverOver ε :=
  let start := receiver.callsDone id
  match Executor.callFrom start receiver.executor (instructions.drop start) with
  | (some (index, reason), executor) =>
    let started :=
      if 0 < index then receiver.started.insert id index else receiver.started
    (.error (.callFailed index reason), { receiver with executor := executor, started := started })
  | (none, executor) =>
    (.ok (.executed id (instructions.length - start)),
      { executor := executor
        processed := receiver.processed.add id
        started := receiver.started.erase id })

/-- Handle one delivery while the given mediators are in force. -/
def receive (receiver : ReceiverOver ε) (mediators : Mediators) (message : Message) :
    Except ReceiveFault ReceiveOutcome × ReceiverOver ε :=
  match mediators.authenticate message.sourceChain message.sender with
  | .error error => (.error (.sender error), receiver)
  | .ok _ =>
    let id := message.id
    if receiver.isProcessed id then (.ok (.duplicate id), receiver)
    else
      match Wire.decode message.data with
      | .error error => (.error (.undecodable error), receiver)
      | .ok batch => receiver.carryOut id batch.instructions

end ReceiverOver

/-! ## The recorder as an executor -/

/-- Why a recorder fails a call to a target. -/
def Recorder.reason (target : Address) : String := "call to " ++ target.toText ++ " reverted"

instance : Executor Recorder where
  call recorder instruction :=
    match recorder.call? instruction with
    | none => (some (Recorder.reason instruction.target), recorder)
    | some after => (none, after)

/-- A failure over a recorder as one over an executor. -/
def ReceiveError.fault : ReceiveError → ReceiveFault
  | .sender error => .sender error
  | .undecodable error => .undecodable error
  | .callFailed index target => .callFailed index (Recorder.reason target)

theorem ReceiveError.message_fault (error : ReceiveError) :
    error.fault.message = error.message := by
  cases error with
  | sender error =>
    show "Sender rejected: " ++ error.message = _
    rfl
  | undecodable error =>
    show "Undecodable message: " ++ error.message = _
    rfl
  | callFailed index target =>
    show "Instruction " ++ toString index ++ " failed: "
        ++ ("call to " ++ target.toText ++ " reverted") =
      "Instruction " ++ toString index ++ (" failed: " ++ "call to ") ++ target.toText
        ++ " reverted"
    simp only [String.append_assoc]

/-- A recorder makes the same calls as an executor and by itself. -/
theorem Recorder.executor_callFrom (index : Nat) (recorder : Recorder)
    (instructions : List Instruction) :
    Executor.callFrom index recorder instructions =
      ((callFrom index recorder instructions).1.map fun failed => (failed.1, reason failed.2),
        (callFrom index recorder instructions).2) := by
  induction instructions generalizing index recorder with
  | nil => rfl
  | cons instruction rest ih =>
    simp only [Executor.callFrom, callFrom, Executor.call]
    cases recorder.call? instruction with
    | none => rfl
    | some after => exact ih (index + 1) after

namespace Receiver

/-- The receiver with a recorder as one over an executor. -/
def toOver (receiver : Receiver) : ReceiverOver Recorder :=
  ReceiverOver.ofMemory receiver.recorder receiver

theorem ledger_toOver (receiver : Receiver) : receiver.toOver.ledger = receiver.ledger := rfl

theorem restore_toOver (recorder : Recorder) (ledger : Ledger) :
    (restore recorder ledger).toOver = ReceiverOver.restore recorder ledger := rfl

theorem carryOut_toOver (receiver : Receiver) (id : Digest) (instructions : List Instruction) :
    receiver.toOver.carryOut id instructions =
      ((receiver.carryOut id instructions).1.mapError ReceiveError.fault,
        (receiver.carryOut id instructions).2.toOver) := by
  have hdone : receiver.toOver.callsDone id = receiver.callsDone id := rfl
  have hrecorder : receiver.toOver.executor = receiver.recorder := rfl
  simp only [ReceiverOver.carryOut, carryOut, hdone, hrecorder, Recorder.executor_callFrom]
  rcases Recorder.callFrom (receiver.callsDone id) receiver.recorder
    (instructions.drop (receiver.callsDone id)) with ⟨_ | failed, after⟩
  · rfl
  · rfl

/-- A receiver with a recorder is the receiver over the recorder: it gives the same answers, worded
alike, and goes on the same. -/
theorem receive_toOver (receiver : Receiver) (mediators : Mediators) (message : Message) :
    receiver.toOver.receive mediators message =
      ((receiver.receive mediators message).1.mapError ReceiveError.fault,
        (receiver.receive mediators message).2.toOver) := by
  have hprocessed : receiver.toOver.isProcessed message.id = receiver.isProcessed message.id := rfl
  simp only [ReceiverOver.receive, receive, hprocessed]
  cases mediators.authenticate message.sourceChain message.sender with
  | error error => rfl
  | ok mediator =>
    cases receiver.isProcessed message.id with
    | true => rfl
    | false =>
      cases Wire.decode message.data with
      | error error => rfl
      | ok batch => exact receiver.carryOut_toOver message.id batch.instructions

end Receiver

end GovernanceRelay
