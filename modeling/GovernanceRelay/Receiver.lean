import GovernanceRelay.Mediators
import GovernanceRelay.Message
import GovernanceRelay.Wire

/-!
# Receiving batches

A receiver believes the mediators in force when a message arrives, carries out each message's batch
once, and makes each call of it at most once: when a call fails, the calls before it have been made,
and the next delivery of the message goes on from the failed call. A message that cannot be read as
a whole is not begun.
-/

set_option autoImplicit false

namespace GovernanceRelay

/-- The account of what was called, with a target on which calls fail. -/
structure Recorder where
  /-- The calls made, in order. -/
  calls : List Instruction
  /-- Calls to this target fail. -/
  failingTarget : Option Address
deriving DecidableEq

namespace Recorder

/-- A recorder that has made no calls. -/
def create (failingTarget : Option Address) : Recorder := ⟨[], failingTarget⟩

/-- Make a call, unless it fails. -/
def call? (recorder : Recorder) (instruction : Instruction) : Option Recorder :=
  if recorder.failingTarget = some instruction.target then none
  else some { recorder with calls := recorder.calls ++ [instruction] }

/-- Make calls in order until one fails; a failure comes with its index, counted from a given one,
and its target. -/
def callFrom (index : Nat) (recorder : Recorder) :
    List Instruction → Option (Nat × Address) × Recorder
  | [] => (none, recorder)
  | instruction :: rest =>
    match recorder.call? instruction with
    | none => (some (index, instruction.target), recorder)
    | some recorder => callFrom (index + 1) recorder rest

/-- The recorder as shown inside a larger value. -/
def inspect (recorder : Recorder) : String :=
  let failing := match recorder.failingTarget with
    | none => "None"
    | some target => "Some(" ++ target.inspect ++ ")"
  "RecordingExecutor \x7b calls: " ++ inspectInstructions recorder.calls ++ ", failing_target: "
    ++ failing ++ " \x7d"

end Recorder

/-- Why a delivery fails. -/
inductive ReceiveError where
  /-- The sender is not to be believed. -/
  | sender (error : MediatorError)
  /-- The data is no batch. -/
  | undecodable (error : WireError)
  /-- The call at an index failed. -/
  | callFailed (index : Nat) (target : Address)
deriving DecidableEq

/-- The wording of each failure. -/
def ReceiveError.message : ReceiveError → String
  | .sender error => "Sender rejected: " ++ error.message
  | .undecodable error => "Undecodable message: " ++ error.message
  | .callFailed index target =>
    "Instruction " ++ toString index ++ " failed: call to " ++ target.toText ++ " reverted"

/-- What a delivery achieved. -/
inductive ReceiveOutcome where
  /-- The rest of the batch was carried out, in so many calls. -/
  | executed (id : Digest) (calls : Nat)
  /-- The message had been carried out before. -/
  | duplicate (id : Digest)
deriving DecidableEq

/-- The progress of deliveries, to be kept across restarts. -/
structure Ledger where
  /-- The version of the form. -/
  version : UInt8
  /-- The messages carried out. -/
  processed : List Digest
  /-- The messages begun, with the number of calls made. -/
  started : List (Digest × UInt64)
deriving DecidableEq

/-- The version of ledgers that are written now. -/
def Ledger.currentVersion : UInt8 := 1

/-- The receiver of batches on a remote chain. -/
structure Receiver where
  /-- The calls made. -/
  recorder : Recorder
  /-- The messages carried out. -/
  processed : OrderedSet Digest
  /-- The messages begun, with the number of calls made. -/
  started : OrderedMap Digest Nat
deriving DecidableEq

namespace Receiver

/-- A receiver that has received nothing. -/
def create (recorder : Recorder) : Receiver := ⟨recorder, OrderedMap.empty, OrderedMap.empty⟩

/-- The receiver that goes on from a ledger. -/
def restore (recorder : Recorder) (ledger : Ledger) : Receiver where
  recorder := recorder
  processed := OrderedSet.ofList ledger.processed
  started := OrderedMap.ofList (ledger.started.map fun entry => (entry.1, entry.2.toNat))

/-- The progress of deliveries, in order of the messages. -/
def ledger (receiver : Receiver) : Ledger where
  version := Ledger.currentVersion
  processed := receiver.processed.keys
  started := receiver.started.entries.map fun entry => (entry.1, UInt64.ofNat entry.2)

/-- Whether a message was carried out. -/
def isProcessed (receiver : Receiver) (id : Digest) : Bool := receiver.processed.contains id

/-- The number of calls made for a message that was begun. -/
def callsDone (receiver : Receiver) (id : Digest) : Nat := (receiver.started.find? id).getD 0

/-- Let calls to a target fail from now on, or none. -/
def setFailingTarget (receiver : Receiver) (target : Option Address) : Receiver :=
  { receiver with recorder := { receiver.recorder with failingTarget := target } }

/-- Carry out what remains of a batch on behalf of a message. -/
def carryOut (receiver : Receiver) (id : Digest) (instructions : List Instruction) :
    Except ReceiveError ReceiveOutcome × Receiver :=
  let start := receiver.callsDone id
  match Recorder.callFrom start receiver.recorder (instructions.drop start) with
  | (some (index, target), recorder) =>
    let started :=
      if 0 < index then receiver.started.insert id index else receiver.started
    (.error (.callFailed index target), { receiver with recorder := recorder, started := started })
  | (none, recorder) =>
    (.ok (.executed id (instructions.length - start)),
      { recorder := recorder
        processed := receiver.processed.add id
        started := receiver.started.erase id })

/-- Handle one delivery while the given mediators are in force. -/
def receive (receiver : Receiver) (mediators : Mediators) (message : Message) :
    Except ReceiveError ReceiveOutcome × Receiver :=
  match mediators.authenticate message.sourceChain message.sender with
  | .error error => (.error (.sender error), receiver)
  | .ok _ =>
    let id := message.id
    if receiver.isProcessed id then (.ok (.duplicate id), receiver)
    else
      match Wire.decode message.data with
      | .error error => (.error (.undecodable error), receiver)
      | .ok batch => receiver.carryOut id batch.instructions

/-- The receiver at a glance. -/
def inspect (receiver : Receiver) : String :=
  "RemoteReceiver \x7b executor: " ++ receiver.recorder.inspect ++ ", processed: "
    ++ toString receiver.processed.size ++ ", partial: " ++ toString receiver.started.size
    ++ " \x7d"

end Receiver

end GovernanceRelay
