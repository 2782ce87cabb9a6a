import GovernanceRelay.Message

/-!
# Bridges

A bridge keeps accepted messages in a queue until they are taken, the oldest first. It numbers what
it accepts, and accepts nothing any more once it is closed.
-/

set_option autoImplicit false

namespace GovernanceRelay

/-- The family of a bridge. -/
inductive BridgeKind where
  /-- The messenger of a rollup. -/
  | nativeRollup
  /-- The checkpoints of a sidechain. -/
  | sidechainCheckpoint
  /-- A network of message relayers. -/
  | messageRelayer
deriving DecidableEq, Repr

/-- The word for the family. -/
def BridgeKind.toText : BridgeKind → String
  | .nativeRollup => "native-rollup"
  | .sidechainCheckpoint => "sidechain-checkpoint"
  | .messageRelayer => "message-relayer"

/-- The acknowledgement of an accepted message. -/
structure Receipt where
  /-- The family of the bridge. -/
  kind : BridgeKind
  /-- The identifier of the message. -/
  messageId : Digest
  /-- The number of messages that the bridge had accepted before. -/
  sequence : UInt64
deriving DecidableEq

/-- A bridge with its queue. -/
structure Bridge where
  /-- The family of the bridge. -/
  kind : BridgeKind
  /-- The messages that wait, the oldest first. -/
  waiting : List Message
  /-- The number of messages accepted. -/
  accepted : UInt64
  /-- Whether the bridge accepts nothing any more. -/
  closed : Bool
deriving DecidableEq

namespace Bridge

/-- An open bridge with an empty queue. -/
def create (kind : BridgeKind) : Bridge := ⟨kind, [], 0, false⟩

/-- Accept a message, unless the bridge is closed. -/
def accept? (bridge : Bridge) (message : Message) : Option (Receipt × Bridge) :=
  if bridge.closed then none
  else
    some (⟨bridge.kind, message.id, bridge.accepted⟩,
      { bridge with waiting := bridge.waiting ++ [message], accepted := bridge.accepted + 1 })

/-- Take the oldest message that waits. -/
def take (bridge : Bridge) : Option Message × Bridge :=
  match bridge.waiting with
  | [] => (none, bridge)
  | message :: rest => (some message, { bridge with waiting := rest })

/-- Take all messages that wait. -/
def takeAll (bridge : Bridge) : List Message × Bridge :=
  (bridge.waiting, { bridge with waiting := [] })

/-- Accept nothing any more. -/
def close (bridge : Bridge) : Bridge := { bridge with closed := true }

end Bridge

end GovernanceRelay
