import GovernanceRelay.Proofs.OrderedMap
import GovernanceRelay.Proofs.Receiver.Delivery

/-!
# Deliveries in any order

All that a delivery finds in a receiver is what is in view under the identifier of its message
(`Receiver.View`): the target on which calls fail, whether the message was carried out, and the
count of its calls. What a delivery does is determined by this view (`Receiver.receive_congr`), and
no other view is changed by it (`Receiver.view_receive_of_ne`). Deliveries of messages with
different identifiers therefore commute up to the order of the calls (`Receiver.alike_swap`), and if
no two messages share an identifier, a list of messages may be delivered in any order
(`Receiver.order_irrelevant`).
-/

set_option autoImplicit false

namespace GovernanceRelay

/-- Which calls are made, and which of them fails, is up to the failing target alone. -/
theorem Recorder.callFrom_congr (index : Nat) {left right : Recorder}
    (same : left.failingTarget = right.failingTarget) (instructions : List Instruction) :
    ∃ failure made, callFrom index left instructions = (failure, left.record made) ∧
      callFrom index right instructions = (failure, right.record made) := by
  induction instructions generalizing index left right with
  | nil => exact ⟨none, [], by rw [callFrom, record_nil], by rw [callFrom, record_nil]⟩
  | cons first rest ih =>
    by_cases failing : right.failingTarget = some first.target
    · refine ⟨some (index, first.target), [], ?_, ?_⟩
      · rw [callFrom_of_failing index rest (same.trans failing), record_nil]
      · rw [callFrom_of_failing index rest failing, record_nil]
    · obtain ⟨failure, made, hleft, hright⟩ :=
        @ih (index + 1) (left.record [first]) (right.record [first]) same
      refine ⟨failure, first :: made, ?_, ?_⟩
      · rw [callFrom_of_passing index rest (same ▸ failing), hleft, record_record,
          List.singleton_append]
      · rw [callFrom_of_passing index rest failing, hright, record_record, List.singleton_append]

namespace Receiver

/-! ## What a delivery has in view -/

/-- What a delivery finds in a receiver under the identifier of its message. -/
structure View where
  /-- Calls to this target fail. -/
  failingTarget : Option Address
  /-- Whether the message was carried out. -/
  processed : Bool
  /-- The number of calls made, if the message was begun. -/
  started : Option Nat

/-- What is in view under an identifier. -/
def view (receiver : Receiver) (id : Digest) : View :=
  ⟨receiver.recorder.failingTarget, receiver.isProcessed id, receiver.started.find? id⟩

theorem view_interrupt (receiver : Receiver) (id : Digest) (index : Nat)
    (made : List Instruction) :
    (receiver.interrupt id index made).view id =
      { receiver.view id with
        started := if 0 < index then some index else receiver.started.find? id } := by
  rw [view, find?_started_interrupt]
  simp only [and_true]
  rfl

theorem view_complete (receiver : Receiver) (id : Digest) (made : List Instruction) :
    (receiver.complete id made).view id =
      { receiver.view id with processed := true, started := none } := by
  rw [view, isProcessed_complete, find?_started_complete, if_pos rfl, decide_eq_true rfl,
    Bool.true_or]
  rfl

/-- Nothing else in view of other messages is changed by a delivery. -/
theorem view_receive_of_ne (receiver : Receiver) (mediators : Mediators) {message : Message}
    {id : Digest} (hne : id ≠ message.id) :
    (receiver.receive mediators message).2.view id = receiver.view id := by
  obtain ⟨hprocessed, hstarted⟩ := receiver.frame_receive mediators message hne
  obtain ⟨made, hmade⟩ := receiver.recorder_receive mediators message
  rw [view, hprocessed, hstarted, hmade]
  rfl

/-- Receivers with the same in view of a message carry out the same of its batch, and have the same
in view of it afterwards. -/
theorem carryOut_congr {left right : Receiver} {id : Digest}
    (same : left.view id = right.view id) (instructions : List Instruction) :
    ∃ made,
      (left.carryOut id instructions).2.recorder = left.recorder.record made ∧
      (right.carryOut id instructions).2.recorder = right.recorder.record made ∧
      (left.carryOut id instructions).2.view id = (right.carryOut id instructions).2.view id := by
  obtain ⟨htarget, -, hstarted⟩ := View.mk.inj same
  have hdone : left.callsDone id = right.callsDone id := by rw [callsDone, hstarted, callsDone]
  obtain ⟨failure, made, hleft, hright⟩ :=
    Recorder.callFrom_congr (right.callsDone id) htarget (instructions.drop (right.callsDone id))
  simp only [carryOut, hdone, hleft, hright]
  -- the two ends of carrying out are the effects whose views are known
  cases failure with
  | none =>
    refine ⟨made, rfl, rfl, ?_⟩
    show (left.complete id made).view id = (right.complete id made).view id
    rw [view_complete, view_complete, same]
  | some failed =>
    refine ⟨made, rfl, rfl, ?_⟩
    show (left.interrupt id failed.1 made).view id = (right.interrupt id failed.1 made).view id
    rw [view_interrupt, view_interrupt, same, hstarted]

/-- Receivers with the same in view of a message make the same calls when it is delivered, and have
the same in view of it afterwards. -/
theorem receive_congr {left right : Receiver} {message : Message}
    (same : left.view message.id = right.view message.id) (mediators : Mediators) :
    ∃ made,
      (left.receive mediators message).2.recorder = left.recorder.record made ∧
      (right.receive mediators message).2.recorder = right.recorder.record made ∧
      (left.receive mediators message).2.view message.id =
        (right.receive mediators message).2.view message.id := by
  -- what comes of a message that is not carried out
  have idle : ∃ made, left.recorder = left.recorder.record made ∧
      right.recorder = right.recorder.record made ∧
      left.view message.id = right.view message.id :=
    ⟨[], left.recorder.record_nil.symm, right.recorder.record_nil.symm, same⟩
  cases hsender : mediators.authenticate message.sourceChain message.sender with
  | error error =>
    rw [left.receive_of_refused hsender, right.receive_of_refused hsender]
    exact idle
  | ok mediator =>
    obtain ⟨-, trusted⟩ := (mediators.authenticate_eq_ok_iff _ _ _).mp hsender
    obtain ⟨-, hprocessed, -⟩ := View.mk.inj same
    rw [left.receive_of_trusted trusted, right.receive_of_trusted trusted, hprocessed]
    cases right.isProcessed message.id with
    | true => exact idle
    | false =>
      cases Wire.decode message.data with
      | error error => exact idle
      | ok batch => exact carryOut_congr same batch.instructions

/-! ## Receivers that are alike -/

/-- Two receivers have the same in view of every message and made the same calls, in whatever
order. -/
structure Alike (left right : Receiver) : Prop where
  /-- They have the same in view of every message. -/
  view : ∀ id, left.view id = right.view id
  /-- They made the same calls, in whatever order. -/
  calls : left.recorder.calls.Perm right.recorder.calls

namespace Alike

theorem refl (receiver : Receiver) : Alike receiver receiver := ⟨fun _ => rfl, .refl _⟩

theorem trans {first second third : Receiver} (early : Alike first second)
    (late : Alike second third) : Alike first third :=
  ⟨fun id => (early.view id).trans (late.view id), early.calls.trans late.calls⟩

variable {left right : Receiver}

/-- Receivers that are alike remember the same. -/
theorem memory (alike : Alike left right) :
    left.processed = right.processed ∧ left.started = right.started := by
  refine ⟨OrderedSet.ext_contains fun id => ?_, OrderedMap.ext_find? fun id => ?_⟩
  · exact (View.mk.inj (alike.view id)).2.1
  · exact (View.mk.inj (alike.view id)).2.2

/-- Receivers that are alike stay so when a message is delivered to both. -/
theorem receive (alike : Alike left right) (mediators : Mediators) (message : Message) :
    Alike (left.receive mediators message).2 (right.receive mediators message).2 := by
  obtain ⟨made, hleft, hright, hview⟩ := receive_congr (alike.view message.id) mediators
  refine ⟨fun id => ?_, ?_⟩
  · by_cases hid : id = message.id
    · rw [hid, hview]
    · rw [left.view_receive_of_ne mediators hid, right.view_receive_of_ne mediators hid,
        alike.view id]
  · rw [hleft, hright]
    exact alike.calls.append_right made

end Alike

/-- Deliveries of messages with different identifiers commute up to the order of the calls. -/
theorem alike_swap (receiver : Receiver) (mediators : Mediators) {one other : Message}
    (hne : one.id ≠ other.id) :
    Alike ((receiver.receive mediators one).2.receive mediators other).2
      ((receiver.receive mediators other).2.receive mediators one).2 := by
  have hother := receiver.view_receive_of_ne mediators hne
  have hone := receiver.view_receive_of_ne mediators hne.symm
  -- each message makes the same calls whether it comes first or second
  obtain ⟨ofOne, hfirst, hsecond, hviewOne⟩ := receive_congr hother.symm mediators
  obtain ⟨ofOther, hfirst', hsecond', hviewOther⟩ := receive_congr hone.symm mediators
  refine ⟨fun id => ?_, ?_⟩
  · by_cases hidOne : id = one.id
    · rw [hidOne, view_receive_of_ne _ mediators hne, hviewOne]
    · by_cases hidOther : id = other.id
      · rw [hidOther, view_receive_of_ne _ mediators hne.symm, hviewOther]
      · rw [view_receive_of_ne _ mediators hidOther, view_receive_of_ne _ mediators hidOne,
          view_receive_of_ne _ mediators hidOne, view_receive_of_ne _ mediators hidOther]
  · rw [hsecond, hsecond', hfirst, hfirst', Recorder.record_record, Recorder.record_record]
    exact List.perm_append_comm.append_left _

/-! ## Lists of messages -/

end Receiver

/-- No two messages of a list have the same identifier. -/
def Message.Distinct (messages : List Message) : Prop :=
  ∀ one ∈ messages, ∀ other ∈ messages, one.id = other.id → one = other

theorem Message.Distinct.of_cons {message : Message} {rest : List Message}
    (distinct : Message.Distinct (message :: rest)) : Message.Distinct rest :=
  fun one hone other hother =>
    distinct one (List.mem_cons_of_mem _ hone) other (List.mem_cons_of_mem _ hother)

theorem Message.Distinct.of_perm {messages reordered : List Message}
    (distinct : Message.Distinct messages) (permuted : messages.Perm reordered) :
    Message.Distinct reordered :=
  fun one hone other hother => distinct one (permuted.mem_iff.mpr hone) other
    (permuted.mem_iff.mpr hother)

namespace Receiver

/-- The receiver after messages are delivered, one after the other. -/
def receiveAll (receiver : Receiver) (mediators : Mediators) (messages : List Message) :
    Receiver :=
  messages.foldl (fun receiver message => (receiver.receive mediators message).2) receiver

/-- Receivers that are alike stay so when the same messages are delivered to both. -/
theorem Alike.receiveAll {left right : Receiver} (alike : Alike left right)
    (mediators : Mediators) (messages : List Message) :
    Alike (left.receiveAll mediators messages) (right.receiveAll mediators messages) := by
  induction messages generalizing left right with
  | nil => exact alike
  | cons message rest ih => exact ih (alike.receive mediators message)

/-- Lists of messages that differ in their order alone leave a receiver alike. -/
theorem alike_of_perm (receiver : Receiver) (mediators : Mediators)
    {messages reordered : List Message} (permuted : messages.Perm reordered)
    (distinct : Message.Distinct messages) :
    Alike (receiver.receiveAll mediators messages) (receiver.receiveAll mediators reordered) := by
  induction permuted generalizing receiver with
  | nil => exact .refl receiver
  | cons message _ ih =>
    exact ih (receiver.receive mediators message).2 distinct.of_cons
  | swap one other rest =>
    by_cases hid : other.id = one.id
    · -- the two are one message, delivered twice
      obtain rfl := distinct other List.mem_cons_self one (by simp) hid
      exact .refl _
    · exact (receiver.alike_swap mediators hid).receiveAll mediators rest
  | trans first _ ihfirst ihsecond =>
    exact (ihfirst receiver distinct).trans (ihsecond receiver (distinct.of_perm first))

/-- If no two messages of a list have the same identifier, then whoever is believed, whichever
target fails and whatever a receiver remembers, the list may be delivered to it in any order: it
remembers the same in the end, writes the same ledger and made the same calls, in another order. -/
theorem order_irrelevant (receiver : Receiver) (mediators : Mediators)
    {messages reordered : List Message} (distinct : Message.Distinct messages)
    (permuted : messages.Perm reordered) :
    let left := receiver.receiveAll mediators messages
    let right := receiver.receiveAll mediators reordered
    left.processed = right.processed ∧ left.started = right.started ∧
      left.ledger = right.ledger ∧ left.recorder.calls.Perm right.recorder.calls := by
  intro left right
  -- the two receivers differ in the order of their calls alone
  have alike : Alike left right := receiver.alike_of_perm mediators permuted distinct
  obtain ⟨hprocessed, hstarted⟩ := alike.memory
  refine ⟨hprocessed, hstarted, ?_, alike.calls⟩
  rw [ledger, hprocessed, hstarted, ledger]

namespace Rehearsal

/-- The account that is believed. -/
def mediator : Address := FixedBytes.replicate 1

/-- Whom the receiver believes. -/
def mediators : Mediators := OrderedMap.empty.insert 1 mediator

/-- A call to an account of one byte's repetition. -/
def call (byte : UInt8) : Instruction := ⟨FixedBytes.replicate byte, 0, []⟩

/-- A message with a number and data, from whomever. -/
def message (sender : Address) (nonce : UInt64) (data : Bytes) : Message :=
  ⟨1, sender, 2, FixedBytes.replicate 2, nonce, data⟩

/-- The second of two calls fails. -/
def stopping : Message := message mediator 0 ((call 3).toWire ++ (call 4).toWire)

/-- A call that is made. -/
def passing : Message := message mediator 1 (call 5).toWire

/-- A message of a stranger. -/
def strange : Message := message (FixedBytes.replicate 9) 2 (call 6).toWire

/-- A message that cannot be read. -/
def broken : Message := message mediator 3 []

/-- Nothing was called, and calls to one account fail. -/
def fresh : Receiver := Receiver.create (Recorder.create (some (FixedBytes.replicate 4)))

/-- The messages come in one order and in another, one of them twice: the calls are made in different
orders, and the same is remembered. -/
theorem order_irrelevant_rehearsed :
    let messages := [stopping, passing, strange, stopping, broken]
    let reordered := [broken, passing, stopping, strange, stopping]
    (fresh.receiveAll mediators messages).recorder.calls = [call 3, call 5] ∧
      (fresh.receiveAll mediators reordered).recorder.calls = [call 5, call 3] ∧
      (fresh.receiveAll mediators messages).callsDone stopping.id = 1 ∧
      (fresh.receiveAll mediators messages).ledger =
        (fresh.receiveAll mediators reordered).ledger := by
  intro messages reordered
  have distinct : Message.Distinct messages := by
    unfold Message.Distinct
    decide +kernel
  have permuted : messages.Perm reordered := by decide +kernel
  obtain ⟨-, -, hledger, -⟩ := order_irrelevant fresh mediators distinct permuted
  exact ⟨by decide +kernel, by decide +kernel, by decide +kernel, hledger⟩

end Rehearsal

end Receiver

end GovernanceRelay
