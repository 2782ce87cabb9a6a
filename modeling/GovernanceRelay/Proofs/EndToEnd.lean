import GovernanceRelay.Proofs.Course
import GovernanceRelay.Proofs.Dispatcher.Sending
import GovernanceRelay.Proofs.Receiver.History
import GovernanceRelay.Proofs.Receiver.Restart
import GovernanceRelay.Proofs.Wire.Canonical

/-!
# From the home chain to the remote chain

A dispatcher sends batches over bridges to one receiver. Messages are replayed, arrive late, in any
order and any number of times, calls fail, and both ends are restarted. Still every batch that is
sent gets a message of its own, and the calls made on its behalf are the front of that batch, each
once and in order; once a delivery carried the message out, the whole batch was made
(`Link.exactly_once`).

`Link.Sound` is what every step keeps (`Link.sound_step`): the messages are numbered in the order in
which they were sent, no other messages are under way, and the receiver is faithful to the
deliveries so far.
-/

set_option autoImplicit false

namespace GovernanceRelay

/-- A message that was sent, with the batch that it was sent for. -/
structure Parcel where
  /-- The message. -/
  message : Message
  /-- The batch. -/
  batch : Batch

/-- A dispatcher, a receiver, and what is between them. -/
structure Link where
  /-- The sender on the home chain, with its bridges. -/
  dispatcher : Dispatcher
  /-- The messages that were taken from a bridge, or were left in one that is out of use; each may
  arrive at any time, and again. -/
  inbox : List Message
  /-- The mediators that the remote chain believes. -/
  believed : Mediators
  /-- The receiver on the remote chain. -/
  receiver : Receiver
  /-- What was sent, the oldest first. -/
  sent : List Parcel
  /-- What was delivered, the oldest first. -/
  deliveries : List Delivery

/-- What happens on a link. -/
inductive LinkEvent where
  /-- A batch is sent to a chain, with the mediators of the home chain as they are. -/
  | send (mediators : Mediators) (chain : ChainId) (batch : Batch)
  /-- The message with a number is sent once more. -/
  | replay (nonce : UInt64)
  /-- The oldest message that waits in the bridge to a chain arrives. -/
  | collect (chain : ChainId)
  /-- A message of the inbox arrives. -/
  | redeliver (index : Nat)
  /-- Calls to a target fail from now on, or none. -/
  | failOn (target : Option Address)
  /-- A chain gets a bridge of its own, in place of an earlier one. -/
  | connect (chain : ChainId) (kind : BridgeKind)
  /-- The dispatcher starts again and goes on with its numbering. -/
  | restartDispatcher
  /-- The receiver starts again and goes on from its ledger. -/
  | restartReceiver (recorder : Recorder)

namespace Link

/-- A link over which nothing was sent yet. -/
def start (believed : Mediators) (chain : ChainId) (address : Address) (first : UInt64)
    (recorder : Recorder) : Link where
  dispatcher := Dispatcher.create chain address first
  inbox := []
  believed := believed
  receiver := Receiver.create recorder
  sent := []
  deliveries := []

/-- The messages that were sent. -/
def messages (link : Link) : List Message := link.sent.map Parcel.message

/-- The link after a message arrived. -/
def deliver (link : Link) (message : Message) : Link :=
  { link with
    receiver := (link.receiver.receive link.believed message).2
    deliveries := link.deliveries ++ [link.receiver.deliveryOf link.believed message] }

/-- The link after an event. A batch that is refused and a message that is not there change
nothing. -/
def step (link : Link) : LinkEvent → Link
  | .send mediators chain batch =>
    match link.dispatcher.send mediators chain batch with
    | .error _ => link
    | .ok (event, dispatcher) =>
      { link with dispatcher := dispatcher, sent := link.sent ++ [⟨event.message, batch⟩] }
  | .replay nonce =>
    match link.dispatcher.replay nonce with
    | .error _ => link
    | .ok (_, dispatcher) => { link with dispatcher := dispatcher }
  | .collect chain =>
    match link.dispatcher.bridges.find? chain with
    | none => link
    | some bridge =>
      match bridge.take with
      | (none, _) => link
      | (some message, bridge) =>
        { link with
          dispatcher := link.dispatcher.connect chain bridge
          inbox := link.inbox ++ [message] }.deliver message
  | .redeliver index =>
    match link.inbox[index]? with
    | none => link
    | some message => link.deliver message
  | .failOn target => { link with receiver := link.receiver.setFailingTarget target }
  | .connect chain kind =>
    { link with
      dispatcher := link.dispatcher.connect chain (Bridge.create kind)
      inbox := link.inbox ++
        ((link.dispatcher.bridges.find? chain).map Bridge.waiting).getD [] }
  | .restartDispatcher =>
    { link with
      dispatcher :=
        Dispatcher.create link.dispatcher.chain link.dispatcher.address link.dispatcher.nextNonce
      inbox := link.inbox ++
        link.dispatcher.bridges.entries.flatMap fun entry => entry.2.waiting }
  | .restartReceiver recorder =>
    { link with receiver := Receiver.restore recorder link.receiver.ledger }

/-- The link after a number of events. -/
def run (link : Link) (events : List LinkEvent) : Link := events.foldl step link

/-! ## What every step keeps -/

/-- A parcel holds its batch in wire format and names who sent it. -/
structure Genuine (chain : ChainId) (address : Address) (parcel : Parcel) : Prop where
  /-- The message comes from the chain. -/
  sourceChain : parcel.message.sourceChain = chain
  /-- The message is sent by the account. -/
  sender : parcel.message.sender = address
  /-- The data of the message is the batch in wire format. -/
  encoded : Wire.encode parcel.batch = .ok parcel.message.data

/-- Every delivery is answered as it should be after those before it. -/
def Settled (deliveries : List Delivery) : Prop :=
  ∀ before delivery after, deliveries = before ++ delivery :: after → delivery.Answers before

/-- What is under way on a link was sent, and the receiver is faithful to what arrived. -/
structure Sound (chain : ChainId) (address : Address) (first : UInt64) (link : Link) : Prop where
  /-- The dispatcher sends from the chain. -/
  chain_eq : link.dispatcher.chain = chain
  /-- The dispatcher sends as the account. -/
  address_eq : link.dispatcher.address = address
  /-- The account is believed. -/
  trusted : link.believed.find? chain = some address
  /-- The next number comes after those of all messages. -/
  next : link.dispatcher.nextNonce = first + UInt64.ofNat link.sent.length
  /-- The messages are numbered in order. -/
  numbered : ∀ index parcel, link.sent[index]? = some parcel →
    parcel.message.nonce = first + UInt64.ofNat index
  /-- Every parcel holds its batch. -/
  genuine : ∀ parcel ∈ link.sent, Genuine chain address parcel
  /-- The dispatcher and its bridges hold no other messages. -/
  held : link.dispatcher.HoldsOnly link.messages
  /-- The inbox holds no other messages. -/
  arrived : ∀ message ∈ link.inbox, message ∈ link.messages
  /-- No other messages were delivered. -/
  delivered : ∀ delivery ∈ link.deliveries, delivery.message ∈ link.messages
  /-- What the receiver remembers agrees with the deliveries. -/
  faithful : link.receiver.Faithful link.deliveries
  /-- The deliveries are answered as they should be. -/
  settled : Settled link.deliveries

/-- The batches that were sent have fewer calls than can be counted in 64 bits, as has every list in
the memory of a machine. -/
def Countable (link : Link) : Prop := ∀ parcel ∈ link.sent, parcel.batch.size < UInt64.size

theorem sound_start {believed : Mediators} {chain : ChainId} {address : Address} (first : UInt64)
    (recorder : Recorder) (trusted : believed.find? chain = some address) :
    Sound chain address first (start believed chain address first recorder) where
  chain_eq := rfl
  address_eq := rfl
  trusted := trusted
  next := (UInt64.add_zero first).symm
  numbered index parcel h := by cases h
  genuine parcel hmem := by cases hmem
  held := Dispatcher.holdsOnly_create chain address first
  arrived message hmem := by cases hmem
  delivered delivery hmem := by cases hmem
  faithful := Receiver.faithful_create recorder
  settled before delivery after h := by
    cases before <;> cases h

theorem Settled.concat {deliveries : List Delivery} {last : Delivery} (settled : Settled deliveries)
    (answers : last.Answers deliveries) : Settled (deliveries ++ [last]) := by
  intro before delivery after h
  -- the delivery in question is the last one, or stands before it
  rcases List.eq_nil_or_concat after with rfl | ⟨rest, final, rfl⟩
  · obtain ⟨rfl, hlast⟩ := List.append_inj' h rfl
    cases hlast
    exact answers
  · rw [List.concat_eq_append, ← List.cons_append, ← List.append_assoc] at h
    exact settled before delivery rest (List.append_inj' h rfl).1

section Step

variable {chain : ChainId} {address : Address} {first : UInt64} {link : Link}

/-- A message that was sent is believed and holds a batch. -/
theorem Sound.decode_of_mem (sound : Sound chain address first link) {message : Message}
    (hmem : message ∈ link.messages) :
    link.believed.find? message.sourceChain = some message.sender ∧
      ∃ parcel ∈ link.sent, parcel.message = message ∧
        Wire.decode message.data = .ok parcel.batch := by
  obtain ⟨parcel, hparcel, rfl⟩ := List.mem_map.mp hmem
  have genuine := sound.genuine parcel hparcel
  refine ⟨?_, parcel, hparcel, rfl, (Wire.encode_eq_ok_iff_decode _ _).mp genuine.encoded⟩
  rw [genuine.sourceChain, genuine.sender, sound.trusted]

/-- The arrival of a message that was sent keeps the link sound. -/
theorem Sound.deliver (sound : Sound chain address first link) {message : Message}
    (hmem : message ∈ link.messages) : Sound chain address first (link.deliver message) := by
  obtain ⟨trusted, parcel, -, -, hdecode⟩ := sound.decode_of_mem hmem
  exact
    { sound with
      delivered :=
        List.forall_mem_append.mpr ⟨sound.delivered, List.forall_mem_singleton.mpr hmem⟩
      faithful := sound.faithful.receive link.believed message
      settled := sound.settled.concat (sound.faithful.answers trusted hdecode) }

/-- A link with another dispatcher that sends as before and holds no other messages is sound. -/
theorem Sound.withDispatcher (sound : Sound chain address first link) {dispatcher : Dispatcher}
    {inbox : List Message} (held : dispatcher.HoldsOnly link.messages)
    (arrived : ∀ message ∈ inbox, message ∈ link.messages)
    (hchain : dispatcher.chain = link.dispatcher.chain)
    (haddress : dispatcher.address = link.dispatcher.address)
    (hnext : dispatcher.nextNonce = link.dispatcher.nextNonce) :
    Sound chain address first { link with dispatcher := dispatcher, inbox := inbox } :=
  { sound with
    chain_eq := hchain.trans sound.chain_eq
    address_eq := haddress.trans sound.address_eq
    next := hnext.trans sound.next
    held := held
    arrived := arrived }

/-- A link with another receiver that is faithful to the deliveries is sound. -/
theorem Sound.withReceiver (sound : Sound chain address first link) {receiver : Receiver}
    (faithful : receiver.Faithful link.deliveries) :
    Sound chain address first { link with receiver := receiver } :=
  { sound with faithful := faithful }

/-- A batch that is sent gets a message with the next number. -/
theorem Sound.send (sound : Sound chain address first link) {mediators : Mediators}
    {destinationChain : ChainId} {batch : Batch} {event : SendEvent} {dispatcher : Dispatcher}
    (h : link.dispatcher.send mediators destinationChain batch = .ok (event, dispatcher)) :
    Sound chain address first
      { link with dispatcher := dispatcher, sent := link.sent ++ [⟨event.message, batch⟩] } := by
  obtain ⟨destination, bridge, data, -, hbridge, -, hencode, rfl, rfl⟩ :=
    (Dispatcher.send_eq_ok_iff _ _ _ _ _ _).mp h
  have grown : ∀ message ∈ link.messages, message ∈ (link.sent ++
      [Parcel.mk (link.dispatcher.compose destinationChain destination data) batch]).map
        Parcel.message := by
    intro message hmem
    rw [List.map_append]
    exact List.mem_append_left _ hmem
  refine
    { sound with
      next := ?_
      numbered := fun index parcel hindex => ?_
      genuine := fun parcel hmem => ?_
      held := ?_
      arrived := fun message hmem => grown message (sound.arrived message hmem)
      delivered := fun delivery hmem => grown delivery.message (sound.delivered delivery hmem) }
  · show link.dispatcher.nextNonce + 1 = _
    rw [sound.next, List.length_append, List.length_singleton, UInt64.ofNat_add, UInt64.add_assoc]
    rfl
  · rcases getElem?_concat_eq_some hindex with ⟨hold, -⟩ | ⟨rfl, rfl⟩
    · exact sound.numbered index parcel hold
    · -- the new parcel has the number that came next
      exact sound.next
  · rcases List.mem_append.mp hmem with hmem | hlast
    · exact sound.genuine parcel hmem
    · rw [List.mem_singleton.mp hlast]
      exact ⟨sound.chain_eq, sound.address_eq, hencode⟩
  · show Dispatcher.HoldsOnly _ (List.map _ _)
    rw [List.map_append]
    exact sound.held.afterSending hbridge _

end Step

/-- Every step keeps a link sound. -/
theorem sound_step {chain : ChainId} {address : Address} {first : UInt64} {link : Link}
    (sound : Sound chain address first link) (countable : link.Countable) (event : LinkEvent) :
    Sound chain address first (link.step event) := by
  cases event with
  | send mediators destinationChain batch =>
    rw [step]
    split
    · exact sound
    · rename_i hsend
      exact sound.send hsend
  | replay nonce =>
    rw [step]
    split
    · exact sound
    · rename_i hreplay
      obtain ⟨_, _, -, -, -, -, rfl⟩ := (Dispatcher.replay_eq_ok_iff _ _ _ _).mp hreplay
      exact sound.withDispatcher (sound.held.replay hreplay) sound.arrived rfl rfl rfl
  | collect source =>
    rw [step]
    split
    · exact sound
    · rename_i bridge hbridge
      have waiting := sound.held.waiting_of_find? hbridge
      rw [Bridge.take]
      cases hqueue : bridge.waiting with
      | nil => exact sound
      | cons message rest =>
        rw [hqueue] at waiting
        obtain ⟨hmessage, hrest⟩ := List.forall_mem_cons.mp waiting
        have taken := sound.withDispatcher
          (sound.held.connect source { bridge with waiting := rest } hrest)
          (List.forall_mem_append.mpr ⟨sound.arrived, List.forall_mem_singleton.mpr hmessage⟩)
          rfl rfl rfl
        exact taken.deliver hmessage
  | redeliver index =>
    rw [step]
    split
    · exact sound
    · rename_i message hmessage
      exact sound.deliver (sound.arrived message (List.mem_of_getElem? hmessage))
  | failOn target => exact sound.withReceiver (sound.faithful.withRecorder _)
  | connect source kind =>
    have fresh := sound.held.connect source (Bridge.create kind) (List.forall_mem_nil _)
    refine sound.withDispatcher fresh (List.forall_mem_append.mpr ⟨sound.arrived, ?_⟩) rfl rfl rfl
    -- what waits in the earlier bridge, if there was one, was sent
    cases hbridge : link.dispatcher.bridges.find? source with
    | none => exact List.forall_mem_nil _
    | some bridge => exact sound.held.waiting_of_find? hbridge
  | restartDispatcher =>
    refine sound.withDispatcher (Dispatcher.holdsOnly_create _ _ _)
      (List.forall_mem_append.mpr ⟨sound.arrived, fun message hwait => ?_⟩) rfl rfl rfl
    obtain ⟨entry, hentry, hwait⟩ := List.mem_flatMap.mp hwait
    exact sound.held.waiting entry hentry message hwait
  | restartReceiver recorder =>
    -- a count is below the length of a batch that was sent, so the ledger can hold it
    have hcount : link.receiver.Countable := by
      intro id count hcount
      obtain ⟨delivery, hmem, -, -, hlt⟩ := sound.faithful.begun id count hcount
      obtain ⟨-, parcel, hparcel, hmessage, hdecode⟩ :=
        sound.decode_of_mem (sound.delivered delivery hmem)
      rw [Message.instructions_of_decode hdecode] at hlt
      exact Nat.lt_trans hlt (countable parcel hparcel)
    rw [step, Receiver.restore_ledger recorder hcount]
    exact sound.withReceiver (sound.faithful.withRecorder recorder)

/-- What was sent stays. -/
theorem sent_step (link : Link) (event : LinkEvent) : link.sent <+: (link.step event).sent := by
  cases event with
  | send mediators destinationChain batch =>
    rw [step]
    split
    · exact List.prefix_rfl
    · exact List.prefix_append _ _
  | replay nonce =>
    rw [step]
    split <;> exact List.prefix_rfl
  | collect source =>
    rw [step]
    split
    · exact List.prefix_rfl
    · split <;> exact List.prefix_rfl
  | redeliver index =>
    rw [step]
    split <;> exact List.prefix_rfl
  | failOn target => exact List.prefix_rfl
  | connect source kind => exact List.prefix_rfl
  | restartDispatcher => exact List.prefix_rfl
  | restartReceiver recorder => exact List.prefix_rfl

theorem sent_run (link : Link) (events : List LinkEvent) : link.sent <+: (link.run events).sent := by
  induction events generalizing link with
  | nil => exact List.prefix_rfl
  | cons event rest ih => exact (sent_step link event).trans (ih (link.step event))

theorem sound_run {chain : ChainId} {address : Address} {first : UInt64} {link : Link}
    (sound : Sound chain address first link) (events : List LinkEvent)
    (countable : (link.run events).Countable) : Sound chain address first (link.run events) := by
  induction events generalizing link with
  | nil => exact sound
  | cons event rest ih =>
    -- what was sent before the event is sent after all of them
    have now : link.Countable := fun parcel hmem =>
      countable parcel ((sent_run link (event :: rest)).subset hmem)
    exact ih (sound_step sound now event) countable

section Reached

variable {chain : ChainId} {address : Address} {first : UInt64} {link : Link}
  (sound : Sound chain address first link)

include sound

/-- Fewer messages than there are numbers have different numbers. -/
theorem Sound.nonce_ne (few : link.sent.length < UInt64.size) :
    link.sent.Pairwise fun one other => one.message.nonce ≠ other.message.nonce := by
  rw [List.pairwise_iff_getElem]
  intro i j hi hj hij heq
  rw [sound.numbered i _ (List.getElem?_eq_getElem hi),
    sound.numbered j _ (List.getElem?_eq_getElem hj)] at heq
  have hnat := congrArg UInt64.toNat ((UInt64.add_right_inj first).mp heq)
  rw [UInt64.toNat_ofNat_of_lt' (Nat.lt_trans hi few),
    UInt64.toNat_ofNat_of_lt' (Nat.lt_trans hj few)] at hnat
  exact Nat.ne_of_lt hij hnat

/-- The calls made for a message are the front of the batch that it was sent for, and the whole batch
once a delivery carried it out. -/
theorem Sound.calls {parcel : Parcel} (hparcel : parcel ∈ link.sent)
    (apart : Apart link.deliveries parcel.message) :
    callsFor link.deliveries parcel.message <+: parcel.batch.instructions ∧
      (Completed link.deliveries parcel.message.id →
        callsFor link.deliveries parcel.message = parcel.batch.instructions) := by
  have hdecode := (Wire.encode_eq_ok_iff_decode _ _).mp (sound.genuine parcel hparcel).encoded
  rw [sound.faithful.calls parcel.message apart, Message.instructions_of_decode hdecode]
  refine ⟨List.take_prefix _ _, fun hcompleted => ?_⟩
  have hprocessed := (sound.faithful.processed _).mpr hcompleted
  rw [Receiver.progress_of_decode _ hdecode, if_pos hprocessed, Batch.size, List.take_length]

end Reached

/-- The messages that were sent do not share identifiers. -/
def Distinct (link : Link) : Prop :=
  ∀ one ∈ link.sent, ∀ other ∈ link.sent,
    one.message.id = other.message.id → one.message = other.message

theorem Sound.apart {chain : ChainId} {address : Address} {first : UInt64} {link : Link}
    (sound : Sound chain address first link) (distinct : link.Distinct) {message : Message}
    (hmem : message ∈ link.messages) : Apart link.deliveries message := by
  intro delivery hdelivery hid
  obtain ⟨one, hone, hmessage⟩ := List.mem_map.mp (sound.delivered delivery hdelivery)
  obtain ⟨other, hother, rfl⟩ := List.mem_map.mp hmem
  rw [← hmessage] at hid ⊢
  exact distinct one hone other hother hid

/-- Whatever happens on a link to a chain that believes the sender: batches that are sent get
messages that differ in number and identifier, even if the batches are equal. The calls made for such
a message are the front of its batch, in order, and the whole batch once a delivery carried it out.
Nothing else is delivered, and a delivery is dropped as a duplicate exactly if an earlier one carried
the same message out. -/
theorem exactly_once {believed : Mediators} {chain : ChainId} {address : Address} {first : UInt64}
    {recorder : Recorder} {events : List LinkEvent} {link : Link}
    (reached : (start believed chain address first recorder).run events = link)
    (trusted : believed.trusts chain address = true) (distinct : link.Distinct)
    (few : link.sent.length < UInt64.size) (countable : link.Countable) :
    (link.sent.Pairwise fun one other =>
      one.message.nonce ≠ other.message.nonce ∧ one.message.id ≠ other.message.id) ∧
    (∀ parcel ∈ link.sent,
      callsFor link.deliveries parcel.message <+: parcel.batch.instructions ∧
      ((∃ delivery ∈ link.deliveries, delivery.message = parcel.message ∧ delivery.Executed) →
        callsFor link.deliveries parcel.message = parcel.batch.instructions)) ∧
    (∀ before delivery after, link.deliveries = before ++ delivery :: after →
      (∃ parcel ∈ link.sent, parcel.message = delivery.message) ∧
      (((∃ earlier ∈ before, earlier.message = delivery.message ∧ earlier.Executed) ∧
          delivery.answer = .ok (.duplicate delivery.message.id)) ∨
        ((¬ ∃ earlier ∈ before, earlier.message = delivery.message ∧ earlier.Executed) ∧
          (delivery.Executed ∨
            ∃ index target, delivery.answer = .error (.callFailed index target))))) := by
  have hfind := ((believed.authenticate_eq_ok_iff _ _ _).mp
    ((believed.trusts_iff_authenticate _ _).mp trusted)).2
  have sound : Sound chain address first link := by
    subst reached
    exact sound_run (sound_start first recorder hfind) events countable
  refine ⟨?_, fun parcel hparcel => ?_, fun before delivery after hsplit => ?_⟩
  · -- messages that differ in number are different, so their identifiers differ as well
    refine (sound.nonce_ne few).imp_of_mem fun hone hother hnonce => ⟨hnonce, fun hid => hnonce ?_⟩
    rw [distinct _ hone _ hother hid]
  · have apart := sound.apart distinct (List.mem_map_of_mem hparcel)
    rw [← completed_iff_of_apart apart]
    exact sound.calls hparcel apart
  · have hdelivered : delivery ∈ link.deliveries := by
      rw [hsplit]
      exact List.mem_append_right _ List.mem_cons_self
    have hmem := sound.delivered delivery hdelivered
    have apart : Apart before delivery.message := fun earlier hearlier => by
      refine sound.apart distinct hmem earlier ?_
      rw [hsplit]
      exact List.mem_append_left _ hearlier
    rw [← completed_iff_of_apart apart]
    exact ⟨List.mem_map.mp hmem, sound.settled before delivery after hsplit⟩

namespace Rehearsal

/-- The account that sends. -/
def sender : Address := FixedBytes.replicate 1

/-- A batch of two calls. -/
def batch : Batch where
  instructions := [⟨FixedBytes.replicate 3, 0, []⟩, ⟨FixedBytes.replicate 4, 0, []⟩]
  nonempty := List.cons_ne_nil _ _

/-- Send the batch over a fresh bridge. -/
def sending : List LinkEvent :=
  [.connect 2 .messageRelayer,
    .send (OrderedMap.empty.insert 2 (FixedBytes.replicate 2)) 2 batch]

/-- The second call of the batch fails when it arrives, both ends restart, the batch is sent again,
and everything arrives that was not carried out, and once more. -/
def link : Link :=
  (start (OrderedMap.empty.insert 1 sender) 1 sender 0 (Recorder.create none)).run
    (sending ++ [.failOn (some (FixedBytes.replicate 4)), .collect 2,
      .restartReceiver (Recorder.create none), .restartDispatcher] ++ sending ++
      [.redeliver 0, .collect 2, .redeliver 0])

/-- Both times the batch is carried out, and no call of it twice. -/
theorem exactly_once_restarted :
    (link.sent.Pairwise fun one other =>
      one.message.nonce ≠ other.message.nonce ∧ one.message.id ≠ other.message.id) ∧
    (∀ parcel ∈ link.sent,
      callsFor link.deliveries parcel.message <+: parcel.batch.instructions) ∧
    link.sent.map (fun parcel => callsFor link.deliveries parcel.message) =
      [batch.instructions, batch.instructions] := by
  have distinct : link.Distinct := by
    unfold Distinct
    decide +kernel
  have few : link.sent.length < UInt64.size := by decide +kernel
  have countable : link.Countable := by
    unfold Countable
    decide +kernel
  obtain ⟨hpairs, hcalls, -⟩ := exactly_once rfl (by decide +kernel) distinct few countable
  exact ⟨hpairs, fun parcel hparcel => (hcalls parcel hparcel).1, by decide +kernel⟩

end Rehearsal

end Link

end GovernanceRelay
