import GovernanceRelay.Proofs.Course
import GovernanceRelay.Proofs.Dispatcher.Sending

/-!
# The outbox of a dispatcher

Bridges are connected, closed and emptied, batches are sent or refused, and messages are replayed, in
any order. The outbox always lists what was sent, in order, with the numbers that follow each other
from the first one on. It determines the next number, so a batch that is refused uses none, and a
number leads back to its message: a replay hands just this message to the bridge that its chain has
at that time (`Dispatcher.outbox_in_order`).

`Dispatcher.Recorded` is what every event keeps (`Dispatcher.recorded_step`). Bridges are replaced,
but none is removed, so there is a bridge for every message of the outbox.
-/

set_option autoImplicit false

namespace GovernanceRelay

/-- What happens to a dispatcher and its bridges. -/
inductive DispatcherEvent where
  /-- A chain gets a bridge, whatever happened to the bridge before. -/
  | connect (chain : ChainId) (bridge : Bridge)
  /-- A batch is sent to a chain while mediators are in force. -/
  | send (mediators : Mediators) (chain : ChainId) (batch : Batch)
  /-- The message with a number is sent once more. -/
  | replay (nonce : UInt64)
  /-- The bridge to a chain accepts nothing any more. -/
  | close (chain : ChainId)
  /-- The oldest message that waits in the bridge to a chain is taken. -/
  | take (chain : ChainId)

namespace Dispatcher

/-- The dispatcher after a change of the bridge to a chain, if there is one. -/
def changeBridge (dispatcher : Dispatcher) (chain : ChainId) (change : Bridge → Bridge) :
    Dispatcher :=
  match dispatcher.bridges.find? chain with
  | none => dispatcher
  | some bridge => dispatcher.connect chain (change bridge)

/-- The dispatcher after an event. What is refused changes nothing. -/
def step (dispatcher : Dispatcher) : DispatcherEvent → Dispatcher
  | .connect chain bridge => dispatcher.connect chain bridge
  | .send mediators chain batch =>
    match dispatcher.send mediators chain batch with
    | .ok (_, after) => after
    | .error _ => dispatcher
  | .replay nonce =>
    match dispatcher.replay nonce with
    | .ok (_, after) => after
    | .error _ => dispatcher
  | .close chain => dispatcher.changeBridge chain Bridge.close
  | .take chain => dispatcher.changeBridge chain fun bridge => bridge.take.2

/-- The dispatcher after a number of events. -/
def run (dispatcher : Dispatcher) (events : List DispatcherEvent) : Dispatcher :=
  events.foldl step dispatcher

/-- What is sent at a moment, if a batch is sent. -/
def sent? (moment : Moment Dispatcher DispatcherEvent) : Option SendEvent :=
  match moment.event with
  | .send mediators chain batch =>
    match moment.before.send mediators chain batch with
    | .ok (event, _) => some event
    | .error _ => none
  | _ => none

theorem sent?_eq_some_iff (moment : Moment Dispatcher DispatcherEvent) (event : SendEvent) :
    sent? moment = some event ↔
      ∃ mediators chain batch after, moment.event = .send mediators chain batch ∧
        moment.before.send mediators chain batch = .ok (event, after) := by
  rw [sent?]
  constructor
  · intro h
    split at h
    · rename_i mediators chain batch hevent
      split at h
      · rename_i given after hsend
        cases h
        exact ⟨mediators, chain, batch, after, hevent, hsend⟩
      · cases h
    · cases h
  · rintro ⟨mediators, chain, batch, after, hevent, hsend⟩
    rw [hevent]
    simp only [hsend]

/-! ## What every event keeps -/

/-- The outbox tells what was sent at the moments of a run, with the numbers from the first one
on. -/
structure Recorded (chain : ChainId) (address : Address) (first : UInt64) (dispatcher : Dispatcher)
    (past : List (Moment Dispatcher DispatcherEvent)) : Prop where
  /-- The dispatcher sends from the chain. -/
  chain_eq : dispatcher.chain = chain
  /-- The dispatcher sends as the account. -/
  address_eq : dispatcher.address = address
  /-- The outbox lists what was sent, in order. -/
  outbox_eq : dispatcher.outbox = past.filterMap sent?
  /-- The next number is the one behind those of the outbox. -/
  next : dispatcher.nextNonce = first + UInt64.ofNat dispatcher.outbox.length
  /-- The messages of the outbox are numbered in order. -/
  numbered : ∀ index event, dispatcher.outbox[index]? = some event →
    event.message.nonce = first + UInt64.ofNat index
  /-- The chain of every message of the outbox has a bridge. -/
  connected : ∀ event ∈ dispatcher.outbox, ∃ bridge,
    dispatcher.bridges.find? event.message.destinationChain = some bridge

section Recorded

variable {chain : ChainId} {address : Address} {first : UInt64} {dispatcher : Dispatcher}
  {past : List (Moment Dispatcher DispatcherEvent)}

theorem recorded_create (chain : ChainId) (address : Address) (first : UInt64) :
    Recorded chain address first (create chain address first) [] where
  chain_eq := rfl
  address_eq := rfl
  outbox_eq := rfl
  next := (UInt64.add_zero first).symm
  numbered index event h := by cases h
  connected event hmem := by cases hmem

/-- A moment at which nothing is sent adds nothing to the record. -/
theorem Recorded.idle (recorded : Recorded chain address first dispatcher past)
    {moment : Moment Dispatcher DispatcherEvent} (unsent : sent? moment = none) :
    Recorded chain address first dispatcher (past ++ [moment]) := by
  refine { recorded with outbox_eq := ?_ }
  rw [List.filterMap_append, List.filterMap_cons_none unsent, List.filterMap_nil,
    List.append_nil, recorded.outbox_eq]

/-- A bridge more, or another one, changes nothing of what was sent. -/
theorem Recorded.connect (recorded : Recorded chain address first dispatcher past)
    (source : ChainId) (bridge : Bridge) :
    Recorded chain address first (dispatcher.connect source bridge) past := by
  refine { recorded with connected := ?_ }
  intro event hmem
  simp only [Dispatcher.connect, OrderedMap.find?_insert]
  split
  · exact ⟨bridge, rfl⟩
  · exact recorded.connected event hmem

theorem Recorded.changeBridge (recorded : Recorded chain address first dispatcher past)
    (source : ChainId) (change : Bridge → Bridge) :
    Recorded chain address first (dispatcher.changeBridge source change) past := by
  rw [Dispatcher.changeBridge]
  split
  · exact recorded
  · exact recorded.connect source _

/-- What is sent is the next entry of the outbox. -/
theorem Recorded.send (recorded : Recorded chain address first dispatcher past)
    {mediators : Mediators} {destinationChain : ChainId} {batch : Batch} {event : SendEvent}
    {after : Dispatcher}
    (hsend : dispatcher.send mediators destinationChain batch = .ok (event, after)) :
    Recorded chain address first after
      (past ++ [⟨dispatcher, .send mediators destinationChain batch, after⟩]) := by
  have hsent : sent? ⟨dispatcher, .send mediators destinationChain batch, after⟩ = some event :=
    (sent?_eq_some_iff _ _).mpr ⟨_, _, _, _, rfl, hsend⟩
  obtain ⟨destination, bridge, data, -, hbridge, -, -, rfl, rfl⟩ :=
    (send_eq_ok_iff _ _ _ _ _ _).mp hsend
  -- the bridge that took the message is there as before
  have connected := recorded.connect destinationChain (bridge.enqueue
    (bridge.eventFor (dispatcher.compose destinationChain destination data)).message)
  refine ⟨recorded.chain_eq, recorded.address_eq, ?_, ?_, ?_, ?_⟩
  · rw [List.filterMap_append, List.filterMap_cons_some hsent, List.filterMap_nil,
      ← recorded.outbox_eq]
    rfl
  · show dispatcher.nextNonce + 1 = first + UInt64.ofNat (dispatcher.outbox ++ [_]).length
    rw [recorded.next, List.length_append, List.length_singleton, UInt64.ofNat_add,
      UInt64.add_assoc]
    rfl
  · intro index entry hentry
    rcases getElem?_concat_eq_some hentry with ⟨hold, -⟩ | ⟨rfl, rfl⟩
    · exact recorded.numbered index entry hold
    · exact recorded.next
  · intro entry hmem
    rcases List.mem_append.mp hmem with hold | hnew
    · exact connected.connected entry hold
    · rw [List.mem_singleton.mp hnew]
      exact ⟨_, (OrderedMap.find?_insert _ _ _ _).trans (if_pos rfl)⟩

/-- Every event keeps the record in order. -/
theorem recorded_step (recorded : Recorded chain address first dispatcher past)
    (event : DispatcherEvent) :
    Recorded chain address first (dispatcher.step event)
      (past ++ [⟨dispatcher, event, dispatcher.step event⟩]) := by
  cases event with
  | connect source bridge => exact (recorded.connect source bridge).idle rfl
  | close source => exact (recorded.changeBridge source _).idle rfl
  | take source => exact (recorded.changeBridge source _).idle rfl
  | send mediators destinationChain batch =>
    cases hsend : dispatcher.send mediators destinationChain batch with
    | error error =>
      have hstep : dispatcher.step (.send mediators destinationChain batch) = dispatcher := by
        simp only [step, hsend]
      rw [hstep]
      exact recorded.idle (by simp only [sent?, hsend])
    | ok done =>
      have hstep : dispatcher.step (.send mediators destinationChain batch) = done.2 := by
        simp only [step, hsend]
      rw [hstep]
      exact recorded.send hsend
  | replay nonce =>
    cases hreplay : dispatcher.replay nonce with
    | error error =>
      have hstep : dispatcher.step (.replay nonce) = dispatcher := by
        simp only [step, hreplay]
      rw [hstep]
      exact recorded.idle rfl
    | ok done =>
      have hstep : dispatcher.step (.replay nonce) = done.2 := by
        simp only [step, hreplay]
      obtain ⟨_, bridge, -, -, -, -, hafter⟩ := (replay_eq_ok_iff _ _ _ _).mp hreplay
      rw [hstep, hafter]
      exact (recorded.connect _ _).idle rfl

end Recorded

theorem recorded_run (chain : ChainId) (address : Address) (first : UInt64)
    (events : List DispatcherEvent) :
    Recorded chain address first ((create chain address first).run events)
      (course step (create chain address first) events) :=
  course_induction (recorded_create chain address first)
    (fun _ _ event recorded => recorded_step recorded event) events

/-- What is sent at a moment of a run comes from the account of the dispatcher and goes to the
mediator that the chain has at that moment, with the batch in wire format. -/
theorem sent_of_mem_course {chain : ChainId} {address : Address} {first : UInt64}
    {events : List DispatcherEvent} {moment : Moment Dispatcher DispatcherEvent}
    (hmoment : moment ∈ course step (create chain address first) events) {event : SendEvent}
    (hsent : sent? moment = some event) :
    event.message.sourceChain = chain ∧ event.message.sender = address ∧
      event.receipt.messageId = event.message.id ∧
      ∃ mediators batch, moment.event = .send mediators event.message.destinationChain batch ∧
        mediators.find? event.message.destinationChain = some event.message.destination ∧
        Wire.encode batch = .ok event.message.data := by
  obtain ⟨earlier, -, -, hbefore, -⟩ := of_mem_course hmoment
  have recorded := recorded_run chain address first earlier
  rw [run, ← hbefore] at recorded
  obtain ⟨mediators, destinationChain, batch, after, hevent, hsend⟩ :=
    (sent?_eq_some_iff moment event).mp hsent
  obtain ⟨destination, bridge, data, hmediator, -, -, hencode, rfl, -⟩ :=
    (send_eq_ok_iff _ _ _ _ _ _).mp hsend
  exact ⟨recorded.chain_eq, recorded.address_eq, rfl, mediators, batch, hevent, hmediator, hencode⟩

/-! ## What is in the outbox stays there -/

theorem outbox_changeBridge (dispatcher : Dispatcher) (chain : ChainId) (change : Bridge → Bridge) :
    (dispatcher.changeBridge chain change).outbox = dispatcher.outbox := by
  rw [changeBridge]
  split
  · rfl
  · rfl

theorem outbox_step (dispatcher : Dispatcher) (event : DispatcherEvent) :
    dispatcher.outbox <+: (dispatcher.step event).outbox := by
  cases event with
  | connect chain bridge => exact List.prefix_rfl
  | close chain =>
    simp only [step, outbox_changeBridge, List.prefix_rfl]
  | take chain =>
    simp only [step, outbox_changeBridge, List.prefix_rfl]
  | send mediators chain batch =>
    rw [step]
    split
    · rename_i hsend
      obtain ⟨_, _, _, -, -, -, -, -, rfl⟩ := (send_eq_ok_iff _ _ _ _ _ _).mp hsend
      exact List.prefix_append _ _
    · exact List.prefix_rfl
  | replay nonce =>
    rw [step]
    split
    · rename_i hreplay
      obtain ⟨_, _, -, -, -, -, rfl⟩ := (replay_eq_ok_iff _ _ _ _).mp hreplay
      exact List.prefix_rfl
    · exact List.prefix_rfl

theorem outbox_run (dispatcher : Dispatcher) (events : List DispatcherEvent) :
    dispatcher.outbox <+: (dispatcher.run events).outbox := by
  induction events generalizing dispatcher with
  | nil => exact List.prefix_rfl
  | cons event rest ih => exact (outbox_step dispatcher event).trans (ih (dispatcher.step event))

/-! ## From a number to its message -/

/-- Numbers that do not run out are counted without wrapping around. -/
theorem toNat_add_ofNat {first : UInt64} {count : Nat} (few : first.toNat + count < UInt64.size) :
    (first + UInt64.ofNat count).toNat = first.toNat + count := by
  have hcount : count < UInt64.size := by omega
  rw [UInt64.toNat_add, UInt64.toNat_ofNat_of_lt' hcount]
  exact Nat.mod_eq_of_lt few

/-- Among messages that are numbered in order the one with a number stands where the number says. -/
theorem find?_of_numbered {outbox : List SendEvent} {base : Nat}
    (numbered : ∀ index event, outbox[index]? = some event →
      event.message.nonce.toNat = base + index) (nonce : UInt64) :
    outbox.find? (·.message.nonce == nonce) =
      if base ≤ nonce.toNat then outbox[nonce.toNat - base]? else none := by
  induction outbox generalizing base with
  | nil => simp
  | cons event rest ih =>
    have hfirst : event.message.nonce.toNat = base := numbered 0 event rfl
    have hrest : ∀ index entry, rest[index]? = some entry →
        entry.message.nonce.toNat = (base + 1) + index := by
      intro index entry hentry
      rw [numbered (index + 1) entry hentry]
      omega
    rw [List.find?_cons]
    by_cases hnonce : event.message.nonce = nonce
    · -- the first message has the number
      subst hnonce
      simp [hfirst]
    · have hne : nonce.toNat ≠ base := by
        intro heq
        exact hnonce (UInt64.toNat_inj.mp (hfirst.trans heq.symm))
      rw [beq_false_of_ne hnonce, ih hrest]
      by_cases hle : base ≤ nonce.toNat
      · have hplace : nonce.toNat - base = nonce.toNat - (base + 1) + 1 := by omega
        rw [if_pos hle, if_pos (by omega), hplace, List.getElem?_cons_succ]
      · rw [if_neg hle, if_neg (by omega)]

/-- What replaying the message with a number does, where messages are numbered from a first one
on. -/
structure Replays (dispatcher : Dispatcher) (first nonce : UInt64) : Prop where
  /-- The number is unknown exactly if no message has been given it. -/
  unknown_iff : dispatcher.replay nonce = .error (.unknownMessage nonce) ↔
    ¬ (first ≤ nonce ∧ nonce < dispatcher.nextNonce)
  /-- Otherwise the message at its place in the outbox is handed to the bridge that its chain has
  now, which refuses it only if it is closed. -/
  known : first ≤ nonce → nonce < dispatcher.nextNonce →
    ∃ event bridge, dispatcher.outbox[nonce.toNat - first.toNat]? = some event ∧
      dispatcher.bridges.find? event.message.destinationChain = some bridge ∧
      dispatcher.replay nonce =
        if bridge.closed then .error (.closed bridge.kind)
        else
          .ok (bridge.receiptFor event.message,
            dispatcher.connect event.message.destinationChain (bridge.enqueue event.message))
  /-- The outbox and the next number stay as they are. -/
  kept : (dispatcher.step (.replay nonce)).outbox = dispatcher.outbox ∧
    (dispatcher.step (.replay nonce)).nextNonce = dispatcher.nextNonce

section Replay

variable {chain : ChainId} {address : Address} {first : UInt64} {dispatcher : Dispatcher}
  {past : List (Moment Dispatcher DispatcherEvent)}
  (recorded : Recorded chain address first dispatcher past)
  (few : first.toNat + dispatcher.outbox.length < UInt64.size)

include recorded few

theorem Recorded.toNat_nextNonce :
    dispatcher.nextNonce.toNat = first.toNat + dispatcher.outbox.length := by
  rw [recorded.next, toNat_add_ofNat few]

theorem Recorded.toNat_nonce {index : Nat} {event : SendEvent}
    (hevent : dispatcher.outbox[index]? = some event) :
    event.message.nonce.toNat = first.toNat + index := by
  obtain ⟨hindex, -⟩ := List.getElem?_eq_some_iff.mp hevent
  rw [recorded.numbered index event hevent, toNat_add_ofNat (by omega)]

theorem Recorded.find?_outbox (nonce : UInt64) :
    dispatcher.outbox.find? (·.message.nonce == nonce) =
      if first ≤ nonce then dispatcher.outbox[nonce.toNat - first.toNat]? else none :=
  find?_of_numbered (fun _ _ hevent => recorded.toNat_nonce few hevent) nonce

theorem Recorded.replays (nonce : UInt64) : dispatcher.Replays first nonce := by
  have hnext := recorded.toNat_nextNonce few
  have hfind := recorded.find?_outbox few nonce
  -- a number that was given leads to its message, and this to the bridge of its chain
  have known : first ≤ nonce → nonce < dispatcher.nextNonce →
      ∃ event bridge, dispatcher.outbox[nonce.toNat - first.toNat]? = some event ∧
        dispatcher.bridges.find? event.message.destinationChain = some bridge ∧
        dispatcher.replay nonce =
          if bridge.closed then .error (.closed bridge.kind)
          else
            .ok (bridge.receiptFor event.message,
              dispatcher.connect event.message.destinationChain (bridge.enqueue event.message)) := by
    intro hfirst hlt
    rw [UInt64.lt_iff_toNat_lt, hnext] at hlt
    have hindex : nonce.toNat - first.toNat < dispatcher.outbox.length := by
      rw [UInt64.le_iff_toNat_le] at hfirst
      omega
    rw [if_pos hfirst, List.getElem?_eq_getElem hindex] at hfind
    obtain ⟨bridge, hbridge⟩ := recorded.connected _ (List.getElem_mem hindex)
    refine ⟨_, bridge, List.getElem?_eq_getElem hindex, hbridge, ?_⟩
    rw [replay, hfind]
    simp only [hbridge]
    cases hclosed : bridge.closed with
    | true => exact hand_of_closed _ _ _ hclosed
    | false => exact hand_of_open _ _ _ hclosed
  refine ⟨⟨?_, ?_⟩, known, ?_⟩
  · rintro hunknown ⟨hfirst, hlt⟩
    obtain ⟨event, bridge, -, -, hreplay⟩ := known hfirst hlt
    rw [hunknown] at hreplay
    split at hreplay
    · cases hreplay
    · cases hreplay
  · intro hout
    have hnone : dispatcher.outbox.find? (·.message.nonce == nonce) = none := by
      rw [hfind]
      split
      · rename_i hfirst
        have hlt : ¬ nonce < dispatcher.nextNonce := fun hlt => hout ⟨hfirst, hlt⟩
        rw [UInt64.lt_iff_toNat_lt, hnext] at hlt
        rw [UInt64.le_iff_toNat_le] at hfirst
        exact List.getElem?_eq_none (by omega)
      · rfl
    rw [replay, hnone]
  · rw [step]
    cases hreplay : dispatcher.replay nonce with
    | error error => exact ⟨rfl, rfl⟩
    | ok done =>
      obtain ⟨_, _, -, -, -, -, hafter⟩ := (replay_eq_ok_iff _ _ _ _).mp hreplay
      simp only [hafter]
      exact ⟨rfl, rfl⟩

end Replay

/-- Whatever happens to a dispatcher and its bridges, as long as numbers do not run out: the outbox
lists what was sent, in order, and what is in it stays there. The next number is the first one plus
the length of the outbox. The message at a place has the number of the place and the sender of the
dispatcher; it goes to the chain that was asked for, to the mediator that the chain had when the batch
was sent, with the batch in wire format, and its receipt is for it. A batch is refused for the first
reason there is, and then nothing changes at all. A number that was given leads back to its message,
which is handed over once more as it is, and other numbers are unknown. -/
theorem outbox_in_order {chain : ChainId} {address : Address} {first : UInt64}
    {events : List DispatcherEvent} {dispatcher : Dispatcher}
    (reached : (create chain address first).run events = dispatcher)
    (few : first.toNat + dispatcher.outbox.length < UInt64.size) :
    dispatcher.outbox = (course step (create chain address first) events).filterMap sent? ∧
    (∀ moment ∈ course step (create chain address first) events,
      moment.after.outbox <+: dispatcher.outbox) ∧
    dispatcher.nextNonce.toNat = first.toNat + dispatcher.outbox.length ∧
    (∀ index event, dispatcher.outbox[index]? = some event →
      event.message.nonce.toNat = first.toNat + index ∧
      event.message.sourceChain = chain ∧ event.message.sender = address ∧
      event.receipt.messageId = event.message.id ∧
      ∃ moment ∈ course step (create chain address first) events, sent? moment = some event ∧
        ∃ mediators batch, moment.event = .send mediators event.message.destinationChain batch ∧
          mediators.find? event.message.destinationChain = some event.message.destination ∧
          Wire.encode batch = .ok event.message.data) ∧
    (∀ mediators destinationChain batch error,
      (dispatcher.send mediators destinationChain batch = .error error ↔
        dispatcher.Refuses mediators destinationChain batch error) ∧
      (dispatcher.Refuses mediators destinationChain batch error →
        dispatcher.step (.send mediators destinationChain batch) = dispatcher)) ∧
    ∀ nonce, dispatcher.Replays first nonce := by
  subst reached
  have recorded := recorded_run chain address first events
  refine ⟨recorded.outbox_eq, ?_, recorded.toNat_nextNonce few, ?_, ?_, recorded.replays few⟩
  · intro moment hmoment
    obtain ⟨earlier, rest, rfl, hbefore, hafter⟩ := of_mem_course hmoment
    -- what comes behind the moment only adds to the outbox
    have hrun : (create chain address first).run (earlier ++ moment.event :: rest) =
        moment.after.run rest := by
      rw [run, List.foldl_append, List.foldl_cons, ← hbefore, ← hafter]
      rfl
    rw [hrun]
    exact outbox_run moment.after rest
  · intro index event hevent
    have hmem := List.mem_of_getElem? hevent
    rw [recorded.outbox_eq] at hmem
    obtain ⟨moment, hmoment, hsent⟩ := List.mem_filterMap.mp hmem
    obtain ⟨hchain, haddress, hreceipt, hsending⟩ := sent_of_mem_course hmoment hsent
    exact ⟨recorded.toNat_nonce few hevent, hchain, haddress, hreceipt, moment, hmoment, hsent,
      hsending⟩
  · intro mediators destinationChain batch error
    refine ⟨send_eq_error_iff _ _ _ _ _, ?_⟩
    intro refused
    simp only [step, (send_eq_error_iff _ _ _ _ _).mpr refused]

namespace Rehearsal

/-- The last number but two. -/
def first : UInt64 := 18446744073709551613

/-- A batch of one call. -/
def batch : Batch where
  instructions := [⟨FixedBytes.replicate 3, 0, []⟩]
  nonempty := List.cons_ne_nil _ _

/-- The mediator of a chain. -/
def mediators : Mediators := OrderedMap.empty.insert 2 (FixedBytes.replicate 2)

/-- A batch is sent, its bridge is closed and refuses another one, the chain gets a new bridge, a
second batch is sent over it and the first message is replayed over it. -/
def events : List DispatcherEvent :=
  [.connect 2 (Bridge.create .nativeRollup), .send mediators 2 batch, .close 2,
    .send mediators 2 batch, .connect 2 (Bridge.create .messageRelayer), .send mediators 2 batch,
    .replay first]

/-- The dispatcher after all this. -/
def dispatcher : Dispatcher := (create 1 (FixedBytes.replicate 1) first).run events

/-- The last two numbers are given, though a batch was refused in between, and what waits in the new
bridge is the second message and then the first one. -/
theorem outbox_in_order_over_new_bridge :
    first.toNat + dispatcher.outbox.length < UInt64.size ∧
    dispatcher.nextNonce.toNat = first.toNat + dispatcher.outbox.length ∧
    dispatcher.outbox.map (·.message.nonce) = [first, first + 1] ∧
    dispatcher.Replays first first ∧
    (dispatcher.bridges.find? 2).map Bridge.waiting =
      some (dispatcher.outbox.map SendEvent.message).reverse := by
  have reached : (create 1 (FixedBytes.replicate 1) first).run events = dispatcher := rfl
  have few : first.toNat + dispatcher.outbox.length < UInt64.size := by decide +kernel
  obtain ⟨-, -, hnext, -, -, hreplays⟩ := outbox_in_order reached few
  exact ⟨few, hnext, by decide +kernel, hreplays first, by decide +kernel⟩

end Rehearsal

end Dispatcher

end GovernanceRelay
