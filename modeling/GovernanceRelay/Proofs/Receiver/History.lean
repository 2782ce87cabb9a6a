import GovernanceRelay.Proofs.Receiver.Delivery

/-!
# A receiver and the history of its deliveries

The history keeps, for every delivery, the message, the calls that were made and the answer. What a
receiver remembers is faithful to its history (`Receiver.Faithful`) if the calls made for a message
are the front of its batch as far as the receiver takes the batch to be carried out. Every delivery
preserves this (`Receiver.Faithful.receive`), whatever was delivered before and whichever call
fails.
-/

set_option autoImplicit false

namespace GovernanceRelay

/-- Some member of a list with one more element is a member of the list or the new element. -/
theorem exists_mem_concat {α : Type} {p : α → Prop} {items : List α} {last : α} :
    (∃ item ∈ items ++ [last], p item) ↔ (∃ item ∈ items, p item) ∨ p last := by
  simp [or_and_right, exists_or]

/-- The calls that a message asks for, none if its data is no batch. -/
def Message.instructions (message : Message) : List Instruction :=
  match Wire.decode message.data with
  | .ok batch => batch.instructions
  | .error _ => []

theorem Message.instructions_of_decode {message : Message} {batch : Batch}
    (h : Wire.decode message.data = .ok batch) : message.instructions = batch.instructions := by
  rw [Message.instructions, h]

/-- One delivery as it went. -/
structure Delivery where
  /-- What was delivered. -/
  message : Message
  /-- The calls that were made, in order. -/
  calls : List Instruction
  /-- What the receiver answered. -/
  answer : Except ReceiveError ReceiveOutcome

/-- The delivery carried out the last calls of its message. -/
def Delivery.Executed (delivery : Delivery) : Prop :=
  ∃ calls, delivery.answer = .ok (.executed delivery.message.id calls)

/-- Some delivery carried out the last calls of a message with the identifier. -/
def Completed (deliveries : List Delivery) (id : Digest) : Prop :=
  ∃ delivery ∈ deliveries, delivery.message.id = id ∧ delivery.Executed

/-- The delivery is answered as it should be after earlier ones: as a duplicate if one of them
completed the message, and otherwise as carried out or stopped at a failing call. -/
def Delivery.Answers (delivery : Delivery) (before : List Delivery) : Prop :=
  (Completed before delivery.message.id ∧
    delivery.answer = .ok (.duplicate delivery.message.id)) ∨
  (¬ Completed before delivery.message.id ∧
    (delivery.Executed ∨ ∃ index target, delivery.answer = .error (.callFailed index target)))

/-- The calls made in all deliveries of a message, in order. -/
def callsFor (deliveries : List Delivery) (message : Message) : List Instruction :=
  (deliveries.filter fun delivery => delivery.message = message).flatMap Delivery.calls

/-- No other message that was delivered has the identifier of the message. -/
def Apart (deliveries : List Delivery) (message : Message) : Prop :=
  ∀ delivery ∈ deliveries, delivery.message.id = message.id → delivery.message = message

theorem completed_concat (deliveries : List Delivery) (delivery : Delivery) (id : Digest) :
    Completed (deliveries ++ [delivery]) id ↔
      Completed deliveries id ∨ (delivery.message.id = id ∧ delivery.Executed) :=
  exists_mem_concat

theorem callsFor_concat (deliveries : List Delivery) (delivery : Delivery) (message : Message) :
    callsFor (deliveries ++ [delivery]) message =
      callsFor deliveries message ++ if delivery.message = message then delivery.calls else [] := by
  rw [callsFor, callsFor, List.filter_append, List.flatMap_append]
  by_cases h : delivery.message = message <;> simp [h]

theorem Apart.of_concat {deliveries : List Delivery} {delivery : Delivery} {message : Message}
    (apart : Apart (deliveries ++ [delivery]) message) :
    Apart deliveries message ∧
      (delivery.message.id = message.id → delivery.message = message) :=
  ⟨fun earlier hmem => apart earlier (List.mem_append_left _ hmem),
    apart delivery (List.mem_append_right _ List.mem_cons_self)⟩

/-- A message is completed by its own deliveries if no other has its identifier. -/
theorem completed_iff_of_apart {deliveries : List Delivery} {message : Message}
    (apart : Apart deliveries message) :
    Completed deliveries message.id ↔
      ∃ delivery ∈ deliveries, delivery.message = message ∧ delivery.Executed := by
  constructor
  · rintro ⟨delivery, hmem, hid, hexecuted⟩
    exact ⟨delivery, hmem, apart delivery hmem hid, hexecuted⟩
  · rintro ⟨delivery, hmem, rfl, hexecuted⟩
    exact ⟨delivery, hmem, rfl, hexecuted⟩

namespace Receiver

/-- The number of calls of a message's batch that the receiver takes to have been made: all of them
if the message is processed, and those counted otherwise. -/
def progress (receiver : Receiver) (message : Message) : Nat :=
  match Wire.decode message.data with
  | .error _ => 0
  | .ok batch =>
    if receiver.isProcessed message.id then batch.size else receiver.callsDone message.id

/-- The delivery of a message to a receiver, as it goes. -/
def deliveryOf (receiver : Receiver) (mediators : Mediators) (message : Message) : Delivery :=
  let received := receiver.receive mediators message
  ⟨message, received.2.recorder.calls.drop receiver.recorder.calls.length, received.1⟩

/-- What a receiver remembers agrees with the history of its deliveries. -/
structure Faithful (receiver : Receiver) (deliveries : List Delivery) : Prop where
  /-- A processed message is not begun. -/
  disjoint : ∀ id, receiver.isProcessed id = true → receiver.started.find? id = none
  /-- A message that is begun was delivered, and some but not all of its calls were made. -/
  begun : ∀ id count, receiver.started.find? id = some count →
    ∃ delivery ∈ deliveries, delivery.message.id = id ∧
      0 < count ∧ count < delivery.message.instructions.length
  /-- The processed messages are those that a delivery completed. -/
  processed : ∀ id, receiver.isProcessed id = true ↔ Completed deliveries id
  /-- The calls made for a message are the front of its batch, as far as the progress goes. -/
  calls : ∀ message, Apart deliveries message →
    callsFor deliveries message = message.instructions.take (receiver.progress message)

theorem faithful_create (recorder : Recorder) : (create recorder).Faithful [] where
  disjoint id h := by cases h
  begun id count h := by cases h
  processed id := by
    constructor
    · intro h
      cases h
    · rintro ⟨delivery, hmem, -⟩
      cases hmem
  calls message _ := by
    have hprogress : (create recorder).progress message = 0 := by
      rw [progress]
      cases Wire.decode message.data <;> rfl
    rw [hprogress]
    rfl

/-- A receiver with another recorder remembers the same. -/
theorem Faithful.withRecorder {receiver : Receiver} {deliveries : List Delivery}
    (faithful : receiver.Faithful deliveries) (recorder : Recorder) :
    { receiver with recorder := recorder }.Faithful deliveries :=
  ⟨faithful.disjoint, faithful.begun, faithful.processed, faithful.calls⟩

/-- What is remembered under the identifier of a message determines its progress. -/
theorem progress_congr {receiver after : Receiver} {message : Message}
    (same : after.isProcessed message.id = receiver.isProcessed message.id ∧
      after.started.find? message.id = receiver.started.find? message.id) :
    after.progress message = receiver.progress message := by
  simp only [progress, callsDone, same.1, same.2]

theorem progress_of_decode (receiver : Receiver) {message : Message} {batch : Batch}
    (h : Wire.decode message.data = .ok batch) :
    receiver.progress message =
      if receiver.isProcessed message.id then batch.size else receiver.callsDone message.id := by
  rw [progress, h]

/-- After an interruption the count of the message is the index of the failed call. -/
theorem callsDone_interrupt (receiver : Receiver) {id : Digest} {index : Nat}
    (made : List Instruction) (hle : receiver.callsDone id ≤ index) :
    (receiver.interrupt id index made).callsDone id = index := by
  rw [callsDone, find?_started_interrupt]
  split
  · rfl
  · rename_i hzero
    have hindex : index = 0 := by simpa using hzero
    show receiver.callsDone id = index
    omega

/-! ## The three kinds of delivery -/

section Concat

variable {receiver : Receiver} {deliveries : List Delivery} (faithful : receiver.Faithful deliveries)

include faithful

/-- A delivery that changes nothing for other messages and continues the front of its own batch
keeps the calls made for every message the front of its batch. -/
theorem Faithful.calls_concat {after : Receiver} {delivery : Delivery}
    (frame : ∀ id, id ≠ delivery.message.id →
      after.isProcessed id = receiver.isProcessed id ∧
        after.started.find? id = receiver.started.find? id)
    (continued : delivery.message.instructions.take (receiver.progress delivery.message) ++
      delivery.calls = delivery.message.instructions.take (after.progress delivery.message))
    (message : Message) (apart : Apart (deliveries ++ [delivery]) message) :
    callsFor (deliveries ++ [delivery]) message =
      message.instructions.take (after.progress message) := by
  obtain ⟨apart, hsame⟩ := apart.of_concat
  rw [callsFor_concat, faithful.calls message apart]
  by_cases hid : delivery.message.id = message.id
  · -- the delivery is of this very message, since no other has its identifier
    obtain rfl := hsame hid
    rw [if_pos rfl, continued]
  · rw [if_neg fun heq => hid (congrArg Message.id heq), List.append_nil,
      progress_congr (frame message.id (Ne.symm hid))]

/-- A delivery without calls that completes nothing leaves the receiver faithful. -/
theorem Faithful.idle {delivery : Delivery} (hcalls : delivery.calls = [])
    (hanswer : ¬ delivery.Executed) : receiver.Faithful (deliveries ++ [delivery]) where
  disjoint := faithful.disjoint
  begun id count h := exists_mem_concat.mpr (.inl (faithful.begun id count h))
  processed id := by
    rw [faithful.processed, completed_concat]
    exact (or_iff_left fun h => hanswer h.2).symm
  calls message apart := by
    rw [callsFor_concat, hcalls, ite_self, List.append_nil, faithful.calls message apart.of_concat.1]

/-- A delivery whose calls stop at a failed one leaves the receiver faithful. -/
theorem Faithful.interrupt {message : Message} {batch : Batch} {made rest : List Instruction}
    {call : Instruction} (hprocessed : receiver.isProcessed message.id = false)
    (hdecode : Wire.decode message.data = .ok batch)
    (hsplit : batch.instructions.drop (receiver.callsDone message.id) = made ++ call :: rest)
    (error : ReceiveError) :
    (receiver.interrupt message.id (receiver.callsDone message.id + made.length) made).Faithful
      (deliveries ++ [⟨message, made, .error error⟩]) := by
  have hinstructions := Message.instructions_of_decode hdecode
  -- the failed call itself was not made, so fewer calls were made than there are
  have hlength : receiver.callsDone message.id + made.length < batch.size := by
    have hlen := congrArg List.length hsplit
    simp only [List.length_drop, List.length_append, List.length_cons] at hlen
    rw [Batch.size]
    omega
  refine ⟨fun id h => ?_, fun id count h => ?_, fun id => ?_, faithful.calls_concat
    (fun id hne => frame_interrupt receiver _ made hne) ?_⟩
  · rw [isProcessed_interrupt] at h
    have hne : id ≠ message.id := by
      rintro rfl
      rw [hprocessed] at h
      cases h
    rw [(frame_interrupt receiver _ made hne).2]
    exact faithful.disjoint id h
  · rw [find?_started_interrupt] at h
    rw [exists_mem_concat]
    split at h
    · rename_i hboth
      cases h
      refine .inr ⟨hboth.2.symm, hboth.1, ?_⟩
      rw [hinstructions]
      exact hlength
    · exact .inl (faithful.begun id count h)
  · rw [isProcessed_interrupt, faithful.processed, completed_concat]
    refine (or_iff_left ?_).symm
    rintro ⟨-, calls, hanswer⟩
    cases hanswer
  · -- the calls made before are the front of the batch, and the new ones continue it
    rw [progress_of_decode _ hdecode, progress_of_decode _ hdecode, isProcessed_interrupt,
      hprocessed, callsDone_interrupt receiver made (Nat.le_add_right _ _), hinstructions]
    simp only [Bool.false_eq_true, if_false]
    rw [List.take_add, hsplit, List.take_left]

/-- A delivery that carries out the rest of a batch leaves the receiver faithful. -/
theorem Faithful.complete {message : Message} {batch : Batch}
    (hprocessed : receiver.isProcessed message.id = false)
    (hdecode : Wire.decode message.data = .ok batch) (count : Nat) :
    (receiver.complete message.id
        (batch.instructions.drop (receiver.callsDone message.id))).Faithful
      (deliveries ++ [⟨message, batch.instructions.drop (receiver.callsDone message.id),
        .ok (.executed message.id count)⟩]) := by
  have hinstructions := Message.instructions_of_decode hdecode
  refine ⟨fun id h => ?_, fun id count h => ?_, fun id => ?_, faithful.calls_concat
    (fun id hne => frame_complete receiver _ hne) ?_⟩
  · rw [find?_started_complete]
    split
    · rfl
    · rename_i hne
      rw [(frame_complete receiver _ hne).1] at h
      exact faithful.disjoint id h
  · rw [find?_started_complete] at h
    split at h
    · cases h
    · exact exists_mem_concat.mpr (.inl (faithful.begun id count h))
  · rw [isProcessed_complete, Bool.or_eq_true, faithful.processed, completed_concat,
      decide_eq_true_iff, or_comm]
    exact or_congr_right ⟨fun h => ⟨h.symm, count, rfl⟩, fun h => h.1.symm⟩
  · -- the calls made before and the rest are the whole batch
    rw [progress_of_decode _ hdecode, progress_of_decode _ hdecode, isProcessed_complete,
      hprocessed, hinstructions]
    simp only [Bool.false_eq_true, if_false, decide_true, Bool.true_or, if_true]
    rw [List.take_append_drop, Batch.size, List.take_length]

/-- Every delivery leaves the receiver faithful to the history with that delivery. -/
theorem Faithful.receive (mediators : Mediators) (message : Message) :
    (receiver.receive mediators message).2.Faithful
      (deliveries ++ [receiver.deliveryOf mediators message]) := by
  have hreceived := received_receive receiver mediators message
  have hdelivery : receiver.deliveryOf mediators message =
      ⟨message, (receiver.receive mediators message).2.recorder.calls.drop
        receiver.recorder.calls.length, (receiver.receive mediators message).1⟩ := rfl
  rw [hdelivery]
  generalize receiver.receive mediators message = received at hreceived ⊢
  cases hreceived with
  | rejected _ => exact faithful.idle List.drop_length (fun ⟨_, hanswer⟩ => by cases hanswer)
  | duplicate _ _ => exact faithful.idle List.drop_length (fun ⟨_, hanswer⟩ => by cases hanswer)
  | undecodable _ _ _ => exact faithful.idle List.drop_length (fun ⟨_, hanswer⟩ => by cases hanswer)
  | interrupted _ hprocessed hdecode hsplit _ _ =>
    simp only [Receiver.interrupt, Recorder.record]
    rw [List.drop_left]
    exact faithful.interrupt hprocessed hdecode hsplit _
  | completed _ hprocessed hdecode _ =>
    simp only [Receiver.complete, Recorder.record]
    rw [List.drop_left]
    exact faithful.complete hprocessed hdecode _

/-- A believed delivery of a batch is answered as it should be. -/
theorem Faithful.answers {mediators : Mediators} {message : Message} {batch : Batch}
    (trusted : mediators.find? message.sourceChain = some message.sender)
    (hdecode : Wire.decode message.data = .ok batch) :
    (receiver.deliveryOf mediators message).Answers deliveries := by
  have hcompleted := faithful.processed message.id
  have hreceived := received_receive receiver mediators message
  simp only [Delivery.Answers, Delivery.Executed, deliveryOf]
  generalize receiver.receive mediators message = received at hreceived ⊢
  rw [← hcompleted]
  cases hreceived with
  | rejected hrefused =>
    -- the sender is believed
    rw [(mediators.authenticate_eq_ok_iff _ _ _).mpr ⟨rfl, trusted⟩] at hrefused
    cases hrefused
  | duplicate _ hprocessed => exact .inl ⟨hprocessed, rfl⟩
  | undecodable _ _ hundecodable =>
    rw [hdecode] at hundecodable
    cases hundecodable
  | interrupted _ hprocessed _ _ _ _ =>
    exact .inr ⟨ne_true_of_eq_false hprocessed, .inr ⟨_, _, rfl⟩⟩
  | completed _ hprocessed _ _ => exact .inr ⟨ne_true_of_eq_false hprocessed, .inl ⟨_, rfl⟩⟩

end Concat

/-- The calls of a delivery are appended to those made before, and nothing else is. -/
theorem calls_receive (receiver : Receiver) (mediators : Mediators) (message : Message) :
    (receiver.receive mediators message).2.recorder.calls =
      receiver.recorder.calls ++ (receiver.deliveryOf mediators message).calls := by
  obtain ⟨made, hmade⟩ := receiver.recorder_receive mediators message
  rw [deliveryOf, hmade, Recorder.record]
  dsimp only
  rw [List.drop_left]

end Receiver

end GovernanceRelay
