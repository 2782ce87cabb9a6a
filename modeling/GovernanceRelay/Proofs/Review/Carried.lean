import GovernanceRelay.Proofs.Receiver.Attempts
import GovernanceRelay.Proofs.Review.FirstOffence

/-!
# Nothing is carried past the review

An instruction to a bridge entrypoint carries a batch to another chain, where a receiver reads it
from a message and puts its calls to an executor. The batch that the receiver reads is the one that
the review inspected, and the receiver puts nothing else to the executor. So if the review passed,
each call that is put to the executor on behalf of the message is permitted on the chain behind the
bridge, and the calls that are made are the front of the batch that was inspected
(`Governance.carried_calls_permitted`), whatever else arrives, whichever calls fail and however often
the message is delivered again or the receiver restarted.
-/

set_option autoImplicit false

namespace GovernanceRelay

namespace Governance

/-- The review of a batch inspects what each instruction to an entrypoint carries. -/
theorem exists_inspected_of_review {governance : Governance} {batch : Batch}
    {chain destination : ChainId} (passed : governance.review batch chain = .ok ())
    {instruction : Instruction} (listed : instruction ∈ batch.instructions)
    (routed : governance.routeOf instruction.target = some destination) :
    ∃ inner, Wire.decode (instruction.payload.drop 4) = .ok inner ∧
      ∀ call ∈ inner.instructions, governance.policies.Permits destination call :=
  ((governance.review_eq_ok_iff batch chain).mp passed instruction listed).carried destination
    routed

/-- If a batch passes the review, then for each of its instructions to an entrypoint and each message
with the data that the instruction carries: whatever happens to a receiver that began with nothing
received, the calls that its executor made for the message are the front of the batch that was
inspected. Each call that was put to the executor for it, made or not, is the next of this batch
behind those made before, and it is permitted on the chain behind the entrypoint. -/
theorem carried_calls_permitted {ε : Type} [Executor ε] {governance : Governance} {batch : Batch}
    {chain destination : ChainId} (passed : governance.review batch chain = .ok ())
    {instruction : Instruction} (listed : instruction ∈ batch.instructions)
    (routed : governance.routeOf instruction.target = some destination)
    {message : Message} (carried : message.data = instruction.payload.drop 4)
    (executor : ε) (events : List (ReceiverEvent ε))
    (apart : ∀ arrival, .arrive arrival ∈ events →
      arrival.message.id = message.id → arrival.message = message) :
    ∃ inner, Wire.decode (instruction.payload.drop 4) = .ok inner ∧
      let attempts := ReceiverOver.attemptsFor message
        (course ReceiverOver.step (ReceiverOver.create executor) events)
      Attempt.callsMade attempts <+: inner.instructions ∧
      Attempt.Follow inner.instructions attempts ∧
      ∀ attempt ∈ attempts, governance.policies.Permits destination attempt.call := by
  obtain ⟨inner, hinner, hpermitted⟩ := exists_inspected_of_review passed listed routed
  -- the receiver reads the batch that was inspected
  have hread : message.instructions = inner.instructions := by
    apply Message.instructions_of_decode
    rw [carried, hinner]
  obtain ⟨hmade, hfollow⟩ := ReceiverOver.attempts_follow_batch executor events message apart
  rw [hread] at hmade hfollow
  refine ⟨inner, hinner, ?_, hfollow, ?_⟩
  · rw [hmade]
    exact List.take_prefix _ _
  · intro attempt hmem
    exact hpermitted attempt.call (hfollow.mem hmem)

namespace CarriedRehearsal

/-- The function that everything calls. -/
def selector : Selector := FixedBytes.replicate 7

/-- The mediator of the home chain. -/
def mediator : Address := FixedBytes.replicate 1

/-- A call to an account of one byte's repetition. -/
def call (byte : UInt8) : Instruction := .call (FixedBytes.replicate byte) selector []

/-- The batch that is carried. -/
def inner : Batch := ⟨[call 3, call 4], List.cons_ne_nil _ _⟩

/-- The instruction to the entrypoint. -/
def instruction : Instruction :=
  .call (FixedBytes.replicate 2) selector (inner.instructions.flatMap Instruction.toWire)

/-- The batch that is reviewed. -/
def batch : Batch := ⟨[instruction], List.cons_ne_nil _ _⟩

/-- The entrypoint may be called at home, and the two accounts behind it. -/
def governance : Governance where
  roles := OrderedMap.empty
  mediators := OrderedMap.empty
  policies := AllowList.ofHistory
    [⟨0, ⟨FixedBytes.replicate 2, selector, 1⟩, none, true⟩,
      ⟨1, ⟨FixedBytes.replicate 3, selector, 5⟩, none, true⟩,
      ⟨2, ⟨FixedBytes.replicate 4, selector, 5⟩, none, true⟩]
  routes := OrderedMap.empty.insert (FixedBytes.replicate 2) 5

/-- The message behind the bridge. -/
def message : Message := ⟨1, mediator, 5, FixedBytes.replicate 6, 0, instruction.payload.drop 4⟩

/-- The message arrives. -/
def arrival : Arrival where
  mediators := OrderedMap.empty.insert 1 mediator
  message := message
  addressable := by decide +kernel

/-- The second call fails, and the receiver is restarted. When the message is delivered again the
call fails again, and the next time it is made. Another delivery comes too late. -/
def events : List (ReceiverEvent Recorder) :=
  [.arrive arrival, .restart, .arrive arrival, .equip (Recorder.create none), .reload,
    .arrive arrival, .arrive arrival]

/-- Two of the four calls put to the executor fail, and all are permitted. -/
theorem carried_calls_permitted_restarted :
    let attempts := ReceiverOver.attemptsFor message (course ReceiverOver.step
      (ReceiverOver.create (Recorder.create (some (FixedBytes.replicate 4)))) events)
    attempts = [⟨call 3, true⟩, ⟨call 4, false⟩, ⟨call 4, false⟩, ⟨call 4, true⟩] ∧
    Attempt.callsMade attempts <+: inner.instructions ∧
    ∀ attempt ∈ attempts, governance.policies.Permits 5 attempt.call := by
  intro attempts
  have apart : ∀ other, .arrive other ∈ events → other.message.id = message.id →
      other.message = message := by
    intro other hmem _
    have hother : other = arrival := by simpa [events] using hmem
    rw [hother]
    rfl
  have passed : governance.review batch 1 = .ok () := by
    have hnone : governance.offence? batch 1 = none := by decide +kernel
    rw [review, hnone]
  have listed : instruction ∈ batch.instructions := List.mem_singleton.mpr rfl
  have routed : governance.routeOf instruction.target = some 5 := by decide +kernel
  obtain ⟨given, hgiven, hprefix, -, hpermitted⟩ :=
    carried_calls_permitted passed listed routed (rfl : message.data = instruction.payload.drop 4)
      (Recorder.create (some (FixedBytes.replicate 4))) events apart
  have hinner : Wire.decode (instruction.payload.drop 4) = .ok inner :=
    (Wire.decode_eq_ok_iff _ _).mpr ⟨by decide +kernel, by decide +kernel⟩
  obtain rfl : inner = given := Except.ok.inj (hinner.symm.trans hgiven)
  exact ⟨by decide +kernel, hprefix, hpermitted⟩

end CarriedRehearsal

end Governance

end GovernanceRelay
