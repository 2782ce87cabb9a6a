import GovernanceRelay.Dispatcher
import GovernanceRelay.Proofs.OrderedMap

/-!
# What sending and replaying do

A batch is sent exactly when its chain has a mediator and an open bridge and it has a wire format;
the message then is in the outbox and waits in the bridge (`Dispatcher.send_eq_ok_iff`). Otherwise
it is refused for the first reason there is (`Dispatcher.send_eq_error_iff`). A replay puts a
message of the outbox in the queue of the bridge that its chain has now
(`Dispatcher.replay_eq_ok_iff`). Neither brings up a message that was not sent
(`Dispatcher.HoldsOnly`).
-/

set_option autoImplicit false

namespace GovernanceRelay

/-- The bridge with one more message in its queue. -/
def Bridge.enqueue (bridge : Bridge) (message : Message) : Bridge :=
  { bridge with waiting := bridge.waiting ++ [message], accepted := bridge.accepted + 1 }

/-- The acknowledgement of the next message. -/
def Bridge.receiptFor (bridge : Bridge) (message : Message) : Receipt :=
  ⟨bridge.kind, message.id, bridge.accepted⟩

/-- The record of the next message. -/
def Bridge.eventFor (bridge : Bridge) (message : Message) : SendEvent :=
  ⟨message, bridge.receiptFor message⟩

theorem Bridge.accept?_of_closed {bridge : Bridge} (closed : bridge.closed = true)
    (message : Message) : bridge.accept? message = none := by
  rw [accept?, if_pos closed]

theorem Bridge.accept?_of_open {bridge : Bridge} (unclosed : bridge.closed = false)
    (message : Message) :
    bridge.accept? message = some (bridge.receiptFor message, bridge.enqueue message) := by
  rw [accept?, if_neg (ne_true_of_eq_false unclosed)]
  rfl

namespace Dispatcher

/-- A closed bridge refuses what it is handed. -/
theorem hand_of_closed (dispatcher : Dispatcher) (chain : ChainId) {bridge : Bridge}
    (message : Message) (closed : bridge.closed = true) :
    dispatcher.hand chain bridge message = .error (.closed bridge.kind) := by
  rw [hand, Bridge.accept?_of_closed closed]

/-- An open bridge takes what it is handed. -/
theorem hand_of_open (dispatcher : Dispatcher) (chain : ChainId) {bridge : Bridge}
    (message : Message) (unclosed : bridge.closed = false) :
    dispatcher.hand chain bridge message =
      .ok (bridge.receiptFor message, dispatcher.connect chain (bridge.enqueue message)) := by
  rw [hand, Bridge.accept?_of_open unclosed]

/-- The dispatcher after an event of sending through a bridge. -/
def afterSending (dispatcher : Dispatcher) (chain : ChainId) (bridge : Bridge)
    (event : SendEvent) : Dispatcher :=
  { dispatcher.connect chain (bridge.enqueue event.message) with
    outbox := dispatcher.outbox ++ [event]
    nextNonce := dispatcher.nextNonce + 1 }

/-- A batch is sent exactly when its chain has a mediator and an open bridge and it has a wire
format. -/
theorem send_eq_ok_iff (dispatcher after : Dispatcher) (mediators : Mediators) (chain : ChainId)
    (batch : Batch) (event : SendEvent) :
    dispatcher.send mediators chain batch = .ok (event, after) ↔
      ∃ destination bridge data, mediators.find? chain = some destination ∧
        dispatcher.bridges.find? chain = some bridge ∧ bridge.closed = false ∧
        Wire.encode batch = .ok data ∧
        event = bridge.eventFor (dispatcher.compose chain destination data) ∧
        after = dispatcher.afterSending chain bridge event := by
  rw [send]
  cases mediators.find? chain with
  | none => simp
  | some destination =>
    cases dispatcher.bridges.find? chain with
    | none => simp
    | some bridge =>
      cases Wire.encode batch with
      | error error => simp
      | ok data =>
        cases hclosed : bridge.closed with
        | true =>
          simp [hand_of_closed _ _ _ hclosed, hclosed]
        | false =>
          simp only [hand_of_open _ _ _ hclosed]
          constructor
          · intro h
            cases h
            exact ⟨destination, bridge, data, rfl, rfl, hclosed, rfl, rfl, rfl⟩
          · rintro ⟨_, _, _, hdestination, hbridge, -, hdata, rfl, rfl⟩
            cases hdestination
            cases hbridge
            cases hdata
            rfl

/-- Why a batch is not sent; of several reasons the first counts. -/
inductive Refuses (dispatcher : Dispatcher) (mediators : Mediators) (chain : ChainId)
    (batch : Batch) : DispatchError → Prop
  /-- Nobody speaks for the chain. -/
  | noMediator :
      mediators.find? chain = none →
      Refuses dispatcher mediators chain batch (.noMediator chain)
  /-- The chain has no bridge. -/
  | noBridge {destination : Address} :
      mediators.find? chain = some destination →
      dispatcher.bridges.find? chain = none →
      Refuses dispatcher mediators chain batch (.noBridge chain)
  /-- The batch has no wire format. -/
  | overflow {destination : Address} {bridge : Bridge} {error : WireError} :
      mediators.find? chain = some destination →
      dispatcher.bridges.find? chain = some bridge →
      Wire.encode batch = .error error →
      Refuses dispatcher mediators chain batch (.wire error)
  /-- The bridge accepts nothing any more. -/
  | closed {destination : Address} {bridge : Bridge} {data : Bytes} :
      mediators.find? chain = some destination →
      dispatcher.bridges.find? chain = some bridge →
      Wire.encode batch = .ok data →
      bridge.closed = true →
      Refuses dispatcher mediators chain batch (.closed bridge.kind)

theorem send_eq_error_iff (dispatcher : Dispatcher) (mediators : Mediators) (chain : ChainId)
    (batch : Batch) (error : DispatchError) :
    dispatcher.send mediators chain batch = .error error ↔
      dispatcher.Refuses mediators chain batch error := by
  constructor
  · intro h
    rw [send] at h
    cases hmediator : mediators.find? chain with
    | none =>
      simp only [hmediator] at h
      cases h
      exact .noMediator hmediator
    | some destination =>
      cases hbridge : dispatcher.bridges.find? chain with
      | none =>
        simp only [hmediator, hbridge] at h
        cases h
        exact .noBridge hmediator hbridge
      | some bridge =>
        cases hencode : Wire.encode batch with
        | error fault =>
          simp only [hmediator, hbridge, hencode] at h
          cases h
          exact .overflow hmediator hbridge hencode
        | ok data =>
          cases hclosed : bridge.closed with
          | true =>
            simp only [hmediator, hbridge, hencode, hand_of_closed _ _ _ hclosed] at h
            cases h
            exact .closed hmediator hbridge hencode hclosed
          | false =>
            -- an open bridge takes the message
            simp only [hmediator, hbridge, hencode, hand_of_open _ _ _ hclosed] at h
            cases h
  · intro refused
    cases refused with
    | noMediator hmediator => simp only [send, hmediator]
    | noBridge hmediator hbridge => simp only [send, hmediator, hbridge]
    | overflow hmediator hbridge hencode => simp only [send, hmediator, hbridge, hencode]
    | closed hmediator hbridge hencode hclosed =>
      simp only [send, hmediator, hbridge, hencode, hand_of_closed _ _ _ hclosed]

/-- A message is replayed exactly when it is in the outbox and its chain has an open bridge. -/
theorem replay_eq_ok_iff (dispatcher after : Dispatcher) (nonce : UInt64) (receipt : Receipt) :
    dispatcher.replay nonce = .ok (receipt, after) ↔
      ∃ event bridge, dispatcher.outbox.find? (·.message.nonce == nonce) = some event ∧
        dispatcher.bridges.find? event.message.destinationChain = some bridge ∧
        bridge.closed = false ∧ receipt = bridge.receiptFor event.message ∧
        after = dispatcher.connect event.message.destinationChain
          (bridge.enqueue event.message) := by
  rw [replay]
  cases dispatcher.outbox.find? (·.message.nonce == nonce) with
  | none => simp
  | some event =>
    simp only [Option.some.injEq, exists_and_left, exists_eq_left']
    cases dispatcher.bridges.find? event.message.destinationChain with
    | none => simp
    | some bridge =>
      cases hclosed : bridge.closed with
      | true => simp [hand_of_closed _ _ _ hclosed, hclosed]
      | false =>
        simp only [hand_of_open _ _ _ hclosed, Option.some.injEq, exists_eq_left', hclosed, true_and,
          Except.ok.injEq, Prod.mk.injEq]
        exact and_congr eq_comm eq_comm

/-- Every message in the outbox and in the queues is one of the given. -/
structure HoldsOnly (dispatcher : Dispatcher) (messages : List Message) : Prop where
  /-- The outbox has none but the given messages. -/
  outbox : ∀ event ∈ dispatcher.outbox, event.message ∈ messages
  /-- The queues have none but the given messages. -/
  waiting : ∀ entry ∈ dispatcher.bridges.entries, ∀ message ∈ entry.2.waiting, message ∈ messages

section HoldsOnly

variable {dispatcher after : Dispatcher} {messages : List Message}

theorem holdsOnly_create (chain : ChainId) (address : Address) (nextNonce : UInt64) :
    (create chain address nextNonce).HoldsOnly messages where
  outbox event hmem := by cases hmem
  waiting entry hmem := by cases hmem

theorem HoldsOnly.mono {more : List Message} (held : dispatcher.HoldsOnly messages)
    (subset : ∀ message ∈ messages, message ∈ more) : dispatcher.HoldsOnly more where
  outbox event hmem := subset _ (held.outbox event hmem)
  waiting entry hmem message hwait := subset _ (held.waiting entry hmem message hwait)

theorem HoldsOnly.connect (held : dispatcher.HoldsOnly messages) (chain : ChainId) (bridge : Bridge)
    (waiting : ∀ message ∈ bridge.waiting, message ∈ messages) :
    (dispatcher.connect chain bridge).HoldsOnly messages where
  outbox := held.outbox
  waiting entry hmem := by
    rcases OrderedMap.mem_place hmem with rfl | hmem
    · exact waiting
    · exact held.waiting entry hmem

/-- What waits in the bridge of a chain is among the messages. -/
theorem HoldsOnly.waiting_of_find? (held : dispatcher.HoldsOnly messages) {chain : ChainId}
    {bridge : Bridge} (h : dispatcher.bridges.find? chain = some bridge) :
    ∀ message ∈ bridge.waiting, message ∈ messages :=
  held.waiting (chain, bridge) ((OrderedMap.find?_eq_some_iff _ _ _).mp h)

theorem HoldsOnly.enqueue (held : dispatcher.HoldsOnly messages) {chain : ChainId} {bridge : Bridge}
    (h : dispatcher.bridges.find? chain = some bridge) {message : Message}
    (hmem : message ∈ messages) :
    (dispatcher.connect chain (bridge.enqueue message)).HoldsOnly messages := by
  refine held.connect chain _ (List.forall_mem_append.mpr ⟨held.waiting_of_find? h, ?_⟩)
  exact List.forall_mem_singleton.mpr hmem

/-- Sending brings up the message that is sent, and no other. -/
theorem HoldsOnly.afterSending (held : dispatcher.HoldsOnly messages) {chain : ChainId}
    {bridge : Bridge} (h : dispatcher.bridges.find? chain = some bridge) (event : SendEvent) :
    (dispatcher.afterSending chain bridge event).HoldsOnly (messages ++ [event.message]) := by
  have grown : dispatcher.HoldsOnly (messages ++ [event.message]) :=
    held.mono fun message hmem => List.mem_append_left _ hmem
  have hlast : event.message ∈ messages ++ [event.message] :=
    List.mem_append_right _ List.mem_cons_self
  exact ⟨List.forall_mem_append.mpr ⟨grown.outbox, List.forall_mem_singleton.mpr hlast⟩,
    (grown.enqueue h hlast).waiting⟩

/-- Replaying brings up no message. -/
theorem HoldsOnly.replay (held : dispatcher.HoldsOnly messages) {nonce : UInt64}
    {receipt : Receipt} (h : dispatcher.replay nonce = .ok (receipt, after)) :
    after.HoldsOnly messages := by
  obtain ⟨event, bridge, hevent, hbridge, -, -, rfl⟩ := (replay_eq_ok_iff _ _ _ _).mp h
  exact held.enqueue hbridge (held.outbox event (List.mem_of_find?_eq_some hevent))

end HoldsOnly

end Dispatcher

end GovernanceRelay
