import GovernanceRelay.Proofs.Governance.Request
import GovernanceRelay.Proofs.Receiver.History

/-!
# Every call at most once

On a remote chain messages are delivered, targets begin and cease to fail, and the governance
changes, in any order. Whatever happens, the calls made for a message are the front of its batch,
each once and in order (`RemoteChain.calls_at_most_once`). One step keeps the receiver faithful to
the deliveries so far and its account free of other calls (`RemoteChain.sound_step`), so every run
does.
-/

set_option autoImplicit false

namespace GovernanceRelay

/-- A remote chain with the deliveries that were made on it. -/
structure RemoteChain where
  /-- The governance of the chain. -/
  governance : Governance
  /-- The receiver of messages. -/
  receiver : Receiver
  /-- The deliveries so far, the oldest first. -/
  deliveries : List Delivery

/-- What happens on a remote chain. -/
inductive RemoteEvent where
  /-- A message arrives, from whomever. -/
  | deliver (message : Message)
  /-- Calls to a target fail from now on, or none. -/
  | failOn (target : Option Address)
  /-- Somebody makes a request to the governance. -/
  | govern (request : GovernanceRequest)

namespace RemoteChain

/-- A remote chain on which nothing was delivered yet. -/
def start (governance : Governance) (recorder : Recorder) : RemoteChain :=
  ⟨governance, Receiver.create recorder, []⟩

/-- The remote chain after an event. -/
def step (chain : RemoteChain) : RemoteEvent → RemoteChain
  | .deliver message =>
    { chain with
      receiver := (chain.receiver.receive chain.governance.mediators message).2
      deliveries :=
        chain.deliveries ++ [chain.receiver.deliveryOf chain.governance.mediators message] }
  | .failOn target => { chain with receiver := chain.receiver.setFailingTarget target }
  | .govern request => { chain with governance := chain.governance.after request }

/-- The remote chain after a number of events. -/
def run (chain : RemoteChain) (events : List RemoteEvent) : RemoteChain := events.foldl step chain

/-- The receiver is faithful to the deliveries, and made no other calls than theirs after those that
are given. -/
structure Sound (before : List Instruction) (chain : RemoteChain) : Prop where
  /-- What the receiver remembers agrees with the deliveries. -/
  faithful : chain.receiver.Faithful chain.deliveries
  /-- The calls made are those of the deliveries, in order. -/
  account : chain.receiver.recorder.calls = before ++ chain.deliveries.flatMap Delivery.calls

theorem sound_start (governance : Governance) (recorder : Recorder) :
    (start governance recorder).Sound recorder.calls where
  faithful := Receiver.faithful_create recorder
  account := (List.append_nil _).symm

theorem sound_step {before : List Instruction} {chain : RemoteChain} (sound : chain.Sound before)
    (event : RemoteEvent) : (chain.step event).Sound before := by
  cases event with
  | deliver message =>
    refine ⟨sound.faithful.receive _ message, ?_⟩
    show (chain.receiver.receive chain.governance.mediators message).2.recorder.calls = _
    rw [Receiver.calls_receive, sound.account, step, List.flatMap_append, List.append_assoc]
    simp
  | failOn target => exact ⟨sound.faithful.withRecorder _, sound.account⟩
  | govern request => exact ⟨sound.faithful, sound.account⟩

theorem sound_run {before : List Instruction} {chain : RemoteChain} (sound : chain.Sound before)
    (events : List RemoteEvent) : (chain.run events).Sound before := by
  induction events generalizing chain with
  | nil => exact sound
  | cons event rest ih => exact ih (sound_step sound event)

/-- Whatever happens on a remote chain, the calls made in the deliveries of a message are the front
of its batch: the whole batch if the message is processed, and as many calls as are counted
otherwise. A processed message has no count, a count is of some but not all calls of a message that
was delivered, and no calls are made outside deliveries. -/
theorem calls_at_most_once (governance : Governance) (recorder : Recorder)
    (events : List RemoteEvent) :
    let chain := (start governance recorder).run events
    (∀ message, Apart chain.deliveries message →
      callsFor chain.deliveries message =
        message.instructions.take (chain.receiver.progress message)) ∧
    (∀ id, chain.receiver.isProcessed id = true → chain.receiver.started.find? id = none) ∧
    (∀ id count, chain.receiver.started.find? id = some count →
      ∃ delivery ∈ chain.deliveries, delivery.message.id = id ∧
        0 < count ∧ count < delivery.message.instructions.length) ∧
    chain.receiver.recorder.calls =
      recorder.calls ++ chain.deliveries.flatMap Delivery.calls := by
  intro chain
  have sound : chain.Sound recorder.calls := sound_run (sound_start governance recorder) events
  exact ⟨sound.faithful.calls, sound.faithful.disjoint, sound.faithful.begun, sound.account⟩

end RemoteChain

end GovernanceRelay
