import GovernanceRelay.Digest.Blake3
import GovernanceRelay.Instruction

/-!
# Messages between chains

A message carries a batch in wire format from a sender on one chain to a mediator on another. Its
identifier is the digest of all its fields written one after the other; every field but the last
has a fixed width.
-/

set_option autoImplicit false

namespace GovernanceRelay

/-- A message as sent and as delivered. -/
structure Message where
  /-- The chain that it comes from. -/
  sourceChain : ChainId
  /-- The account that sent it. -/
  sender : Address
  /-- The chain that it goes to. -/
  destinationChain : ChainId
  /-- The account that it goes to. -/
  destination : Address
  /-- The number that the sender gave it. -/
  nonce : UInt64
  /-- The batch in wire format. -/
  data : Bytes
deriving DecidableEq

namespace Message

/-- The bytes that the identifier is the digest of. -/
def preimage (message : Message) : Bytes :=
  Bytes.bigEndian 8 message.sourceChain.toNat ++ message.sender.bytes
    ++ Bytes.bigEndian 8 message.destinationChain.toNat ++ message.destination.bytes
    ++ Bytes.bigEndian 8 message.nonce.toNat ++ message.data

/-- What tells the message from every other. -/
def id (message : Message) : Digest := blake3 message.preimage

end Message

end GovernanceRelay
