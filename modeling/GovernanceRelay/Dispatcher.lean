import GovernanceRelay.Bridge
import GovernanceRelay.Mediators
import GovernanceRelay.Wire

/-!
# Sending batches to other chains

A dispatcher writes a batch in wire format, addresses it to the mediator of the destination chain,
gives it the next number and hands it to the bridge of that chain. What a bridge accepted is kept in
the outbox and can be handed over again unchanged. A batch that is not accepted leaves no trace.
-/

set_option autoImplicit false

namespace GovernanceRelay

/-- Why a batch is not sent. -/
inductive DispatchError where
  /-- The chain has no bridge. -/
  | noBridge (chain : ChainId)
  /-- The chain has no mediator. -/
  | noMediator (chain : ChainId)
  /-- The bridge is closed. -/
  | closed (kind : BridgeKind)
  /-- No message with the number was sent. -/
  | unknownMessage (nonce : UInt64)
  /-- The batch has no wire format. -/
  | wire (error : WireError)
deriving DecidableEq

/-- The wording of each refusal. -/
def DispatchError.message : DispatchError → String
  | .noBridge chain => "No transport configured for chain " ++ toString chain.toNat
  | .noMediator chain => "No remote mediator registered for chain " ++ toString chain.toNat
  | .closed kind => "Transport rejected message: " ++ kind.toText ++ " bridge is closed"
  | .unknownMessage nonce => "No sent message with nonce " ++ toString nonce.toNat
  | .wire error => "Codec error: " ++ error.message

/-- A message that a bridge accepted. -/
structure SendEvent where
  /-- The message. -/
  message : Message
  /-- What the bridge answered. -/
  receipt : Receipt
deriving DecidableEq

/-- The sender of batches on the home chain. -/
structure Dispatcher where
  /-- The home chain. -/
  chain : ChainId
  /-- The account that sends. -/
  address : Address
  /-- The bridge to each chain that has one. -/
  bridges : OrderedMap ChainId Bridge
  /-- What was sent, the oldest first. -/
  outbox : List SendEvent
  /-- The number of the next message. -/
  nextNonce : UInt64
deriving DecidableEq

namespace Dispatcher

/-- A dispatcher without bridges that numbers its messages from a given one on. -/
def create (chain : ChainId) (address : Address) (nextNonce : UInt64) : Dispatcher :=
  ⟨chain, address, OrderedMap.empty, [], nextNonce⟩

/-- Use a bridge for a chain, in place of any earlier one. -/
def connect (dispatcher : Dispatcher) (chain : ChainId) (bridge : Bridge) : Dispatcher :=
  { dispatcher with bridges := dispatcher.bridges.insert chain bridge }

/-- Hand a message to a bridge of the dispatcher. -/
def hand (dispatcher : Dispatcher) (chain : ChainId) (bridge : Bridge) (message : Message) :
    Except DispatchError (Receipt × Dispatcher) :=
  match bridge.accept? message with
  | none => .error (.closed bridge.kind)
  | some (receipt, bridge) => .ok (receipt, dispatcher.connect chain bridge)

/-- The message that carries the bytes of a batch to the mediator of a chain. -/
def compose (dispatcher : Dispatcher) (chain : ChainId) (destination : Address) (data : Bytes) :
    Message :=
  ⟨dispatcher.chain, dispatcher.address, chain, destination, dispatcher.nextNonce, data⟩

/-- Send a batch to the mediator of a chain. -/
def send (dispatcher : Dispatcher) (mediators : Mediators) (chain : ChainId) (batch : Batch) :
    Except DispatchError (SendEvent × Dispatcher) :=
  match mediators.find? chain with
  | none => .error (.noMediator chain)
  | some destination =>
    match dispatcher.bridges.find? chain with
    | none => .error (.noBridge chain)
    | some bridge =>
      match Wire.encode batch with
      | .error error => .error (.wire error)
      | .ok data =>
        let message := dispatcher.compose chain destination data
        match dispatcher.hand chain bridge message with
        | .error error => .error error
        | .ok (receipt, dispatcher) =>
          let event : SendEvent := ⟨message, receipt⟩
          .ok (event, { dispatcher with
            outbox := dispatcher.outbox ++ [event]
            nextNonce := dispatcher.nextNonce + 1 })

/-- Hand the message with a number to the bridge of its chain once more. -/
def replay (dispatcher : Dispatcher) (nonce : UInt64) :
    Except DispatchError (Receipt × Dispatcher) :=
  match dispatcher.outbox.find? fun event => event.message.nonce == nonce with
  | none => .error (.unknownMessage nonce)
  | some event =>
    let chain := event.message.destinationChain
    match dispatcher.bridges.find? chain with
    | none => .error (.noBridge chain)
    | some bridge => dispatcher.hand chain bridge event.message

/-- The dispatcher at a glance. -/
def inspect (dispatcher : Dispatcher) : String :=
  let chains := ", ".intercalate (dispatcher.bridges.keys.map fun chain => toString chain.toNat)
  "CommandRelay \x7b chain_id: " ++ toString dispatcher.chain.toNat ++ ", address: "
    ++ dispatcher.address.inspect ++ ", routes: [" ++ chains ++ "], outbox: "
    ++ toString dispatcher.outbox.length ++ " \x7d"

end Dispatcher

end GovernanceRelay
