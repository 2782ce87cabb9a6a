import GovernanceRelay.Message
import GovernanceRelay.Proofs.Forwarding.Effect

/-!
# What identifiers stand for

The identifiers of messages and batches are digests. What is digested is told apart wherever the
messages or batches are: the fields in front of a message's data have fixed widths, so the data
begins at the same place in every message (`Message.preimage_eq_iff`), and a wire format is read as
one batch only (`eq_of_operationPreimage`). So different messages or batches have one identifier
only where the digest does not tell apart two byte strings that differ (`same_id_iff`).
-/

set_option autoImplicit false

namespace GovernanceRelay

/-- Two byte strings differ and yet have one digest. -/
structure Collision (left right : Bytes) : Prop where
  /-- They differ. -/
  apart : left ≠ right
  /-- They have one digest. -/
  digest : blake3 left = blake3 right

/-- Two byte strings have one digest if they are equal or collide, and else they have two. -/
theorem blake3_eq_iff (left right : Bytes) :
    blake3 left = blake3 right ↔ left = right ∨ Collision left right := by
  constructor
  · intro hdigest
    by_cases heq : left = right
    · exact .inl heq
    · exact .inr ⟨heq, hdigest⟩
  · rintro (rfl | hcollision)
    · rfl
    · exact hcollision.digest

/-- A number of 64 bits is read back from its eight bytes. -/
theorem Bytes.bigEndian_toNat_inj {left right : UInt64}
    (h : bigEndian 8 left.toNat = bigEndian 8 right.toNat) : left = right := by
  have hvalue := congrArg value h
  rw [value_bigEndian left.toNat_lt, value_bigEndian right.toNat_lt] at hvalue
  exact UInt64.toNat_inj.mp hvalue

namespace Message

/-- What is digested of a message determines its fields one after the other, from the front. -/
theorem preimage_injective {left right : Message} (h : left.preimage = right.preimage) :
    left = right := by
  unfold preimage at h
  -- the widths in front of the data are the same in both, so the byte strings split alike
  obtain ⟨h, hdata⟩ := List.append_inj h (by simp [left.sender.length_bytes,
    right.sender.length_bytes, left.destination.length_bytes, right.destination.length_bytes])
  obtain ⟨h, hnonce⟩ := List.append_inj' h (by simp)
  obtain ⟨h, hdestination⟩ := List.append_inj' h
    (left.destination.length_bytes.trans right.destination.length_bytes.symm)
  obtain ⟨h, hdestinationChain⟩ := List.append_inj' h (by simp)
  obtain ⟨hsourceChain, hsender⟩ := List.append_inj' h
    (left.sender.length_bytes.trans right.sender.length_bytes.symm)
  rw [mk.injEq]
  exact ⟨Bytes.bigEndian_toNat_inj hsourceChain, FixedBytes.ext hsender,
    Bytes.bigEndian_toNat_inj hdestinationChain, FixedBytes.ext hdestination,
    Bytes.bigEndian_toNat_inj hnonce, hdata⟩

theorem preimage_eq_iff (left right : Message) :
    left.preimage = right.preimage ↔ left = right :=
  ⟨preimage_injective, congrArg preimage⟩

end Message

/-- What is digested of a batch is its wire format, which it has if its instructions all fit. -/
theorem exists_operationPreimage_iff (one other : Batch) :
    (∃ bytes, operationPreimage one = .ok bytes ∧ operationPreimage other = .ok bytes) ↔
      one = other ∧ ∀ instruction ∈ one.instructions, instruction.fitsWire = true := by
  constructor
  · rintro ⟨bytes, hone, hother⟩
    exact ⟨eq_of_operationPreimage hone hother, (Wire.exists_encode_iff one).mp ⟨bytes, hone⟩⟩
  · rintro ⟨rfl, fits⟩
    obtain ⟨bytes, hbytes⟩ := (Wire.exists_encode_iff one).mpr fits
    exact ⟨bytes, hbytes, hbytes⟩

/-- Batches have one identifier if they are one batch with a wire format, or else have wire formats
that collide. -/
theorem exists_operationId_iff (one other : Batch) :
    (∃ id, operationId one = .ok id ∧ operationId other = .ok id) ↔
      (one = other ∧ ∀ instruction ∈ one.instructions, instruction.fitsWire = true) ∨
        ∃ oneBytes otherBytes, operationPreimage one = .ok oneBytes ∧
          operationPreimage other = .ok otherBytes ∧ Collision oneBytes otherBytes := by
  simp only [← exists_operationPreimage_iff, operationId_eq_ok_iff]
  constructor
  · rintro ⟨id, ⟨bytes, hone, rfl⟩, more, hother, hdigest⟩
    rcases (blake3_eq_iff bytes more).mp hdigest.symm with rfl | hcollision
    · exact .inl ⟨bytes, hone, hother⟩
    · exact .inr ⟨bytes, more, hone, hother, hcollision⟩
  · rintro (⟨bytes, hone, hother⟩ | ⟨bytes, more, hone, hother, hcollision⟩)
    · exact ⟨blake3 bytes, ⟨bytes, hone, rfl⟩, bytes, hother, rfl⟩
    · exact ⟨blake3 bytes, ⟨bytes, hone, rfl⟩, more, hother, hcollision.digest.symm⟩

/-- What is digested of two messages is equal exactly if the messages are, in all their fields, and
two batches have one wire format exactly if they are one batch whose instructions all fit the wire.
So messages have one identifier exactly if they are equal or what is digested of them collides, and
likewise batches. -/
theorem same_id_iff (left right : Message) (one other : Batch) :
    (left.preimage = right.preimage ↔
      left.sourceChain = right.sourceChain ∧ left.sender = right.sender ∧
        left.destinationChain = right.destinationChain ∧ left.destination = right.destination ∧
        left.nonce = right.nonce ∧ left.data = right.data) ∧
    (left.id = right.id ↔ left = right ∨ Collision left.preimage right.preimage) ∧
    ((∃ bytes, operationPreimage one = .ok bytes ∧ operationPreimage other = .ok bytes) ↔
      one = other ∧ ∀ instruction ∈ one.instructions, instruction.fitsWire = true) ∧
    ((∃ id, operationId one = .ok id ∧ operationId other = .ok id) ↔
      (one = other ∧ ∀ instruction ∈ one.instructions, instruction.fitsWire = true) ∨
        ∃ oneBytes otherBytes, operationPreimage one = .ok oneBytes ∧
          operationPreimage other = .ok otherBytes ∧ Collision oneBytes otherBytes) := by
  refine ⟨?_, ?_, exists_operationPreimage_iff one other, exists_operationId_iff one other⟩
  · rw [Message.preimage_eq_iff, Message.mk.injEq]
  · rw [Message.id, Message.id, blake3_eq_iff, Message.preimage_eq_iff]

end GovernanceRelay
