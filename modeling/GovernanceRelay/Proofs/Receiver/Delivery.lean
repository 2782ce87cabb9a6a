import GovernanceRelay.Receiver

/-!
# What one delivery does

A delivery ends in one of five ways (`Receiver.Received`): the sender is not believed, the message
was carried out before, its data is no batch, a call fails, or the rest of the batch is carried out.
The first three leave the receiver as it was. The other two continue the batch behind the calls
already made, and the receiver afterwards is the one that was interrupted at the failed call
(`Receiver.interrupt`) or that completed the message (`Receiver.complete`).
-/

set_option autoImplicit false

namespace GovernanceRelay

/-- The sender that is authenticated for a chain is its mediator. -/
theorem Mediators.authenticate_eq_ok_iff (mediators : Mediators) (chain : ChainId)
    (sender mediator : Address) :
    mediators.authenticate chain sender = .ok mediator ↔
      mediator = sender ∧ mediators.find? chain = some sender := by
  rw [Mediators.authenticate]
  cases mediators.find? chain with
  | none => simp
  | some current =>
    by_cases h : current = sender
    · simpa [FixedBytes.agrees_iff, h] using eq_comm
    · simp [FixedBytes.agrees_iff, h]

/-- A sender is refused because the chain has no mediator, or because it has another one. -/
theorem Mediators.authenticate_eq_error_iff (mediators : Mediators) (chain : ChainId)
    (sender : Address) (error : MediatorError) :
    mediators.authenticate chain sender = .error error ↔
      (mediators.find? chain = none ∧ error = .unknownChain chain) ∨
        ∃ mediator, mediators.find? chain = some mediator ∧ mediator ≠ sender ∧
          error = .untrustedSender chain sender := by
  rw [Mediators.authenticate]
  cases mediators.find? chain with
  | none => simpa using eq_comm
  | some current =>
    by_cases h : current = sender
    · simp [FixedBytes.agrees_iff, h]
    · simpa [FixedBytes.agrees_iff, h] using eq_comm

namespace Recorder

/-- The recorder after more calls. -/
def record (recorder : Recorder) (made : List Instruction) : Recorder :=
  { recorder with calls := recorder.calls ++ made }

@[simp] theorem record_nil (recorder : Recorder) : recorder.record [] = recorder := by
  rw [record, List.append_nil]

@[simp] theorem record_record (recorder : Recorder) (made more : List Instruction) :
    (recorder.record made).record more = recorder.record (made ++ more) := by
  simp only [record, List.append_assoc]

section Calls

variable (index : Nat) {recorder : Recorder} {first : Instruction} (rest : List Instruction)

/-- A call that fails is the last one. -/
theorem callFrom_of_failing (failing : recorder.failingTarget = some first.target) :
    callFrom index recorder (first :: rest) = (some (index, first.target), recorder) := by
  rw [callFrom, call?, if_pos failing]

/-- After a call that is made the rest is numbered from the next index on. -/
theorem callFrom_of_passing (passing : recorder.failingTarget ≠ some first.target) :
    callFrom index recorder (first :: rest) =
      callFrom (index + 1) (recorder.record [first]) rest := by
  rw [callFrom, call?, if_neg passing, record]

end Calls

/-- Calls are made in order up to the first whose target fails. -/
theorem callFrom_cases (index : Nat) (recorder : Recorder) (instructions : List Instruction) :
    ((∀ call ∈ instructions, recorder.failingTarget ≠ some call.target) ∧
      callFrom index recorder instructions = (none, recorder.record instructions)) ∨
    ∃ made call rest, instructions = made ++ call :: rest ∧
      (∀ earlier ∈ made, recorder.failingTarget ≠ some earlier.target) ∧
      recorder.failingTarget = some call.target ∧
      callFrom index recorder instructions =
        (some (index + made.length, call.target), recorder.record made) := by
  induction instructions generalizing index recorder with
  | nil => exact .inl ⟨List.forall_mem_nil _, by rw [callFrom, record_nil]⟩
  | cons first rest ih =>
    by_cases hfail : recorder.failingTarget = some first.target
    · refine .inr ⟨[], first, rest, rfl, List.forall_mem_nil _, hfail, ?_⟩
      rw [callFrom_of_failing index rest hfail, record_nil]
      rfl
    · rw [callFrom_of_passing index rest hfail]
      rcases ih (index + 1) (recorder.record [first]) with
        ⟨hpass, hrest⟩ | ⟨made, call, later, rfl, hmade, htarget, hrest⟩
      · refine .inl ⟨List.forall_mem_cons.mpr ⟨hfail, hpass⟩, ?_⟩
        rw [hrest, record_record, List.singleton_append]
      · refine .inr ⟨first :: made, call, later, rfl, List.forall_mem_cons.mpr ⟨hfail, hmade⟩,
          htarget, ?_⟩
        rw [hrest, record_record, List.singleton_append, List.length_cons, Nat.add_assoc,
          Nat.add_comm 1]

end Recorder

namespace Receiver

/-- The receiver after calls for a message of which the one at an index failed. -/
def interrupt (receiver : Receiver) (id : Digest) (index : Nat) (made : List Instruction) :
    Receiver :=
  { receiver with
    recorder := receiver.recorder.record made
    started := if 0 < index then receiver.started.insert id index else receiver.started }

/-- The receiver after the last calls for a message. -/
def complete (receiver : Receiver) (id : Digest) (made : List Instruction) : Receiver where
  recorder := receiver.recorder.record made
  processed := receiver.processed.add id
  started := receiver.started.erase id

/-- How a delivery ends, with the answer and the receiver afterwards. -/
inductive Received (receiver : Receiver) (mediators : Mediators) (message : Message) :
    Except ReceiveError ReceiveOutcome × Receiver → Prop
  | rejected {error : MediatorError} :
      mediators.authenticate message.sourceChain message.sender = .error error →
      Received receiver mediators message (.error (.sender error), receiver)
  | duplicate :
      mediators.find? message.sourceChain = some message.sender →
      receiver.isProcessed message.id = true →
      Received receiver mediators message (.ok (.duplicate message.id), receiver)
  | undecodable {error : WireError} :
      mediators.find? message.sourceChain = some message.sender →
      receiver.isProcessed message.id = false →
      Wire.decode message.data = .error error →
      Received receiver mediators message (.error (.undecodable error), receiver)
  | interrupted {batch : Batch} {made rest : List Instruction} {call : Instruction} :
      mediators.find? message.sourceChain = some message.sender →
      receiver.isProcessed message.id = false →
      Wire.decode message.data = .ok batch →
      batch.instructions.drop (receiver.callsDone message.id) = made ++ call :: rest →
      (∀ earlier ∈ made, receiver.recorder.failingTarget ≠ some earlier.target) →
      receiver.recorder.failingTarget = some call.target →
      Received receiver mediators message
        (.error (.callFailed (receiver.callsDone message.id + made.length) call.target),
          receiver.interrupt message.id (receiver.callsDone message.id + made.length) made)
  | completed {batch : Batch} :
      mediators.find? message.sourceChain = some message.sender →
      receiver.isProcessed message.id = false →
      Wire.decode message.data = .ok batch →
      (∀ call ∈ batch.instructions.drop (receiver.callsDone message.id),
        receiver.recorder.failingTarget ≠ some call.target) →
      Received receiver mediators message
        (.ok (.executed message.id (batch.size - receiver.callsDone message.id)),
          receiver.complete message.id
            (batch.instructions.drop (receiver.callsDone message.id)))

/-- A message from a refused sender changes nothing. -/
theorem receive_of_refused (receiver : Receiver) {mediators : Mediators} {message : Message}
    {error : MediatorError}
    (refused : mediators.authenticate message.sourceChain message.sender = .error error) :
    receiver.receive mediators message = (.error (.sender error), receiver) := by
  rw [receive, refused]

/-- A message of the mediator is carried out unless it was before or is no batch. -/
theorem receive_of_trusted (receiver : Receiver) {mediators : Mediators} {message : Message}
    (trusted : mediators.find? message.sourceChain = some message.sender) :
    receiver.receive mediators message =
      if receiver.isProcessed message.id then (.ok (.duplicate message.id), receiver)
      else
        match Wire.decode message.data with
        | .error error => (.error (.undecodable error), receiver)
        | .ok batch => receiver.carryOut message.id batch.instructions := by
  have believed := (mediators.authenticate_eq_ok_iff _ _ _).mpr ⟨rfl, trusted⟩
  rw [receive]
  cases hsender : mediators.authenticate message.sourceChain message.sender with
  | error error =>
    rw [believed] at hsender
    cases hsender
  | ok mediator => rfl

/-- Every delivery ends in one of the five ways. -/
theorem received_receive (receiver : Receiver) (mediators : Mediators) (message : Message) :
    Received receiver mediators message (receiver.receive mediators message) := by
  cases hsender : mediators.authenticate message.sourceChain message.sender with
  | error error =>
    rw [receive_of_refused receiver hsender]
    exact .rejected hsender
  | ok mediator =>
    obtain ⟨-, htrusted⟩ := (mediators.authenticate_eq_ok_iff _ _ _).mp hsender
    rw [receive_of_trusted receiver htrusted]
    cases hprocessed : receiver.isProcessed message.id with
    | true => exact .duplicate htrusted hprocessed
    | false =>
      cases hdecode : Wire.decode message.data with
      | error error => exact .undecodable htrusted hprocessed hdecode
      | ok batch =>
        simp only [Bool.false_eq_true, if_false, carryOut]
        rcases Recorder.callFrom_cases (receiver.callsDone message.id) receiver.recorder
            (batch.instructions.drop (receiver.callsDone message.id)) with
          ⟨hpass, hcalls⟩ | ⟨made, call, rest, hsplit, hmade, htarget, hcalls⟩
        · rw [hcalls]
          exact .completed htrusted hprocessed hdecode hpass
        · rw [hcalls]
          exact .interrupted htrusted hprocessed hdecode hsplit hmade htarget

/-! ## The two effects -/

section Effects

variable (receiver : Receiver) (id other : Digest) (index : Nat) (made : List Instruction)

@[simp] theorem isProcessed_interrupt :
    (receiver.interrupt id index made).isProcessed other = receiver.isProcessed other := rfl

theorem find?_started_interrupt :
    (receiver.interrupt id index made).started.find? other =
      if 0 < index ∧ other = id then some index else receiver.started.find? other := by
  rw [interrupt]
  split
  · simp [OrderedMap.find?_insert, *]
  · simp [*]

theorem isProcessed_complete :
    (receiver.complete id made).isProcessed other = (other = id || receiver.isProcessed other) := by
  show ((receiver.processed.insert id ()).find? other).isSome = _
  rw [OrderedMap.find?_insert]
  split <;> simp [*, isProcessed, OrderedMap.contains]

theorem find?_started_complete :
    (receiver.complete id made).started.find? other =
      if other = id then none else receiver.started.find? other :=
  OrderedMap.find?_erase receiver.started id other

/-- An interruption changes nothing for other messages. -/
theorem frame_interrupt {other id : Digest} (hne : other ≠ id) :
    (receiver.interrupt id index made).isProcessed other = receiver.isProcessed other ∧
      (receiver.interrupt id index made).started.find? other = receiver.started.find? other := by
  refine ⟨rfl, ?_⟩
  rw [find?_started_interrupt, if_neg fun hboth => hne hboth.2]

/-- A completion changes nothing for other messages. -/
theorem frame_complete {other id : Digest} (hne : other ≠ id) :
    (receiver.complete id made).isProcessed other = receiver.isProcessed other ∧
      (receiver.complete id made).started.find? other = receiver.started.find? other := by
  rw [isProcessed_complete, find?_started_complete, if_neg hne, decide_eq_false hne, Bool.false_or]
  exact ⟨rfl, rfl⟩

end Effects

/-- A delivery changes nothing for other messages. -/
theorem frame_receive (receiver : Receiver) (mediators : Mediators) (message : Message)
    {other : Digest} (hne : other ≠ message.id) :
    (receiver.receive mediators message).2.isProcessed other = receiver.isProcessed other ∧
      (receiver.receive mediators message).2.started.find? other =
        receiver.started.find? other := by
  have hreceived := received_receive receiver mediators message
  generalize receiver.receive mediators message = received at hreceived ⊢
  cases hreceived with
  | rejected _ => exact ⟨rfl, rfl⟩
  | duplicate _ _ => exact ⟨rfl, rfl⟩
  | undecodable _ _ _ => exact ⟨rfl, rfl⟩
  | interrupted _ _ _ _ _ _ => exact frame_interrupt receiver _ _ hne
  | completed _ _ _ _ => exact frame_complete receiver _ hne

/-- A delivery adds calls to the account and changes nothing else of the recorder. -/
theorem recorder_receive (receiver : Receiver) (mediators : Mediators) (message : Message) :
    ∃ made, (receiver.receive mediators message).2.recorder = receiver.recorder.record made := by
  have hreceived := received_receive receiver mediators message
  generalize receiver.receive mediators message = received at hreceived ⊢
  cases hreceived with
  | rejected _ => exact ⟨[], receiver.recorder.record_nil.symm⟩
  | duplicate _ _ => exact ⟨[], receiver.recorder.record_nil.symm⟩
  | undecodable _ _ _ => exact ⟨[], receiver.recorder.record_nil.symm⟩
  | interrupted _ _ _ _ _ _ => exact ⟨_, rfl⟩
  | completed _ _ _ _ => exact ⟨_, rfl⟩

end Receiver

end GovernanceRelay
