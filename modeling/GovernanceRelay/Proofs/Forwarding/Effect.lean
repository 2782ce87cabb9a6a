import GovernanceRelay.Proofs.Forwarding.HomeChain
import GovernanceRelay.Proofs.Wire.Canonical

/-!
# What forwarding a batch does

Forwarding a batch does nothing if the review objects or the timelock refuses, and else changes the
timelock at one identifier and nowhere else (`HomeChain.forward_all_or_nothing`). The timelock
executes the batch that it keeps under the identifier. That this is the batch that was reviewed
rests on batches being told apart by their identifiers, which they are if no two of them have wire
formats that differ and yet have one digest (`Unambiguous`).
-/

set_option autoImplicit false

namespace GovernanceRelay

/-- Of some batches, no two have wire formats that differ and yet have one digest. -/
def Unambiguous (batches : List Batch) : Prop :=
  ∀ one ∈ batches, ∀ other ∈ batches, ∀ oneBytes otherBytes,
    operationPreimage one = .ok oneBytes → operationPreimage other = .ok otherBytes →
      blake3 oneBytes = blake3 otherBytes → oneBytes = otherBytes

theorem operationId_eq_ok_iff (batch : Batch) (id : Digest) :
    operationId batch = .ok id ↔
      ∃ bytes, operationPreimage batch = .ok bytes ∧ blake3 bytes = id := by
  rw [operationId]
  cases operationPreimage batch <;> simp

/-- Batches that have one wire format are one batch, since a wire format is read as one batch
only. -/
theorem eq_of_operationPreimage {one other : Batch} {bytes : Bytes}
    (hone : operationPreimage one = .ok bytes) (hother : operationPreimage other = .ok bytes) :
    one = other := by
  have hread := (Wire.encode_eq_ok_iff_decode one bytes).mp hone
  have hread' := (Wire.encode_eq_ok_iff_decode other bytes).mp hother
  exact Except.ok.inj (hread.symm.trans hread')

/-- Batches that have one identifier are one batch. -/
theorem Unambiguous.eq_of_operationId {batches : List Batch} (unambiguous : Unambiguous batches)
    {one other : Batch} (hone : one ∈ batches) (hother : other ∈ batches) {id : Digest}
    (hid : operationId one = .ok id) (hsame : operationId other = .ok id) : one = other := by
  obtain ⟨bytes, hbytes, rfl⟩ := (operationId_eq_ok_iff one id).mp hid
  obtain ⟨more, hmore, hdigest⟩ := (operationId_eq_ok_iff other _).mp hsame
  obtain rfl := unambiguous one hone other hother bytes more hbytes hmore hdigest.symm
  exact eq_of_operationPreimage hbytes hmore

theorem unambiguous_of_forall_eq (batch : Batch) {batches : List Batch}
    (same : ∀ one ∈ batches, one = batch) : Unambiguous batches := by
  intro one hone other hother bytes more hbytes hmore _
  rw [same one hone] at hbytes
  rw [same other hother] at hmore
  exact Except.ok.inj (hbytes.symm.trans hmore)

/-- The batch that is to be scheduled by a request. -/
def TimelockRequest.scheduled? : TimelockRequest → Option Batch
  | schedule _ batch => some batch
  | _ => none

namespace Timelock

/-- A timelock became another in which an operation is known under an identifier and some
instructions were executed more, and nothing else was changed. -/
structure ChangedAt (timelock changed : Timelock) (id : Digest) (operation : Operation)
    (instructions : List Instruction) : Prop where
  /-- The account is the same. -/
  address : changed.address = timelock.address
  /-- The roles are the same. -/
  roles : changed.roles = timelock.roles
  /-- The delay is the same. -/
  minDelay : changed.minDelay = timelock.minDelay
  /-- The moment is the same. -/
  now : changed.now = timelock.now
  /-- The operation is known under the identifier. -/
  found : changed.operations.find? id = some operation
  /-- Under other identifiers the same is known. -/
  others : ∀ other, other ≠ id →
    changed.operations.find? other = timelock.operations.find? other
  /-- The instructions were executed after what had been executed. -/
  executed : changed.executed = timelock.executed ++ instructions

variable (timelock : Timelock) (id : Digest)

theorem changedAt_enqueue (batch : Batch) :
    timelock.ChangedAt (timelock.enqueue id batch) id
      ⟨batch, later timelock.now timelock.minDelay, .pending⟩ [] where
  address := rfl
  roles := rfl
  minDelay := rfl
  now := rfl
  found := (OrderedMap.find?_insert _ _ _ _).trans (if_pos rfl)
  others _ hne := (OrderedMap.find?_insert _ _ _ _).trans (if_neg hne)
  executed := (List.append_nil _).symm

theorem changedAt_complete (operation : Operation) :
    timelock.ChangedAt (timelock.complete id operation) id { operation with state := .done }
      operation.batch.instructions where
  address := rfl
  roles := rfl
  minDelay := rfl
  now := rfl
  found := (OrderedMap.find?_insert _ _ _ _).trans (if_pos rfl)
  others _ hne := (OrderedMap.find?_insert _ _ _ _).trans (if_neg hne)
  executed := rfl

/-- What waits was asked to be scheduled. -/
theorem mem_scheduled_of_pending {address : Address} {minDelay : Seconds}
    {requests : List TimelockRequest} {id : Digest} {operation : Operation}
    (hfind : ((create address minDelay).run requests).operations.find? id = some operation)
    (hpending : operation.state = .pending) :
    operation.batch ∈ requests.filterMap TimelockRequest.scheduled? := by
  obtain ⟨_, scheduling, _, _, hpast, hevent, -⟩ :=
    (accounted_run address minDelay requests).waiting id operation hfind hpending
  obtain ⟨_, _, hrequests, -⟩ := course_eq_append_cons hpast
  refine List.mem_filterMap.mpr ⟨scheduling.event, ?_, by rw [hevent]; rfl⟩
  rw [hrequests]
  exact List.mem_append_right _ List.mem_cons_self

end Timelock

namespace HomeChain

/-- A batch is forwarded exactly if it passes the review and the timelock grants what the operator
asks. If it is not forwarded, because of either, nothing is changed. If it is forwarded, its
identifier is returned and the timelock is changed at this identifier only: the batch waits under it
until the end of the delay, or the last moment of the clock, if it was to be scheduled; and if it
was to be executed, it waited there, is done now, and its instructions were executed in order. -/
theorem forward_all_or_nothing (address operator : Address) (minDelay : Seconds)
    (requests : List TimelockRequest) (governance : Governance) (batch : Batch) (chain : ChainId)
    (mode : ForwardMode)
    (unambiguous : Unambiguous (batch :: requests.filterMap TimelockRequest.scheduled?)) :
    let timelock := (Timelock.create address minDelay).run requests
    let home : HomeChain := ⟨operator, governance, timelock⟩
    let answer := governance.forward operator timelock batch chain mode
    let after := home.step (.forward batch chain mode)
    ((∃ done, answer = .ok done) ↔
      governance.review batch chain = .ok () ∧
        ∃ done, timelock.answer (mode.request operator batch) = .ok done) ∧
    (∀ error, answer = .error error →
      after = home ∧
        ((∃ offence, governance.review batch chain = .error offence ∧ error = .offence offence) ∨
          ∃ refusal, timelock.answer (mode.request operator batch) = .error refusal ∧
            error = .refused refusal)) ∧
    (∀ id changed, answer = .ok (id, changed) →
      operationId batch = .ok id ∧ after = { home with timelock := changed } ∧
        ∃ readyAt,
          match mode with
          | .schedule =>
            readyAt.toNat = min (timelock.now.toNat + minDelay.toNat) (UInt64.size - 1) ∧
              timelock.ChangedAt changed id ⟨batch, readyAt, .pending⟩ []
          | .execute =>
            timelock.operations.find? id = some ⟨batch, readyAt, .pending⟩ ∧
              timelock.ChangedAt changed id ⟨batch, readyAt, .done⟩ batch.instructions) := by
  intro timelock home answer after
  refine ⟨governance.exists_forward_iff operator timelock batch chain mode,
    fun error herror => ⟨step_of_forward_error herror, ?_⟩, fun id changed hok => ?_⟩
  · have hcause := (Governance.forward_eq_error_iff _ _ _ _ _ _ _).mp herror
    exact hcause.imp_right And.right
  · have hafter : after = { home with timelock := changed } := step_of_forward_ok hok
    obtain ⟨-, hanswer⟩ := (Governance.forward_eq_ok_iff _ _ _ _ _ _ _ _).mp hok
    have granted := (timelock.answer_eq_ok_iff _ _).mp hanswer
    have accounted : Timelock.Accounted minDelay timelock _ :=
      Timelock.accounted_run address minDelay requests
    cases mode with
    | schedule =>
      cases granted with
      | schedule _ hid _ =>
        refine ⟨hid, hafter, later timelock.now timelock.minDelay, ?_,
          timelock.changedAt_enqueue id batch⟩
        rw [toNat_later, accounted.delay]
    | execute =>
      cases granted with
      | @execute _ _ _ operation _ hid hfind hpending _ =>
        -- what is executed is what was scheduled under the identifier, hence the batch itself
        have hbatch : operation.batch = batch :=
          unambiguous.eq_of_operationId
            (List.mem_cons_of_mem _ (Timelock.mem_scheduled_of_pending hfind hpending))
            List.mem_cons_self (accounted.keyed id operation hfind) hid
        obtain ⟨stored, readyAt, state⟩ := operation
        obtain rfl : stored = batch := hbatch
        obtain rfl : state = .pending := hpending
        exact ⟨hid, hafter, readyAt, hfind, timelock.changedAt_complete id _⟩

namespace Rehearsal

/-- The account that administers the governance and forwards batches. -/
def operator : Address := FixedBytes.replicate 1

/-- A batch of two calls. -/
def batch : Batch where
  instructions :=
    [.call (FixedBytes.replicate 3) (FixedBytes.replicate 7) [],
      .call (FixedBytes.replicate 4) (FixedBytes.replicate 7) [5]]
  nonempty := List.cons_ne_nil _ _

/-- Allow both calls on chain one. -/
def allowing : GovernanceRequest :=
  .setPolicies operator
    [⟨⟨FixedBytes.replicate 3, FixedBytes.replicate 7, 1⟩, true⟩,
      ⟨⟨FixedBytes.replicate 4, FixedBytes.replicate 7, 1⟩, true⟩]

/-- The batch is scheduled and its delay of ten seconds is over. -/
def requests : List TimelockRequest :=
  [.setupRole .proposer operator, .setupRole .executor operator, .schedule operator batch,
    .advance 10]

/-- The batch is executed, and nothing but the batch. -/
theorem forward_executes_scheduled :
    let governance := (Governance.create operator).after allowing
    let timelock := (Timelock.create operator 10).run requests
    ∃ id changed readyAt,
      governance.forward operator timelock batch 1 .execute = .ok (id, changed) ∧
        timelock.operations.find? id = some ⟨batch, readyAt, .pending⟩ ∧
        timelock.ChangedAt changed id ⟨batch, readyAt, .done⟩ batch.instructions := by
  intro governance timelock
  have unambiguous : Unambiguous (batch :: requests.filterMap TimelockRequest.scheduled?) :=
    unambiguous_of_forall_eq batch (by decide)
  obtain ⟨-, -, heffect⟩ := forward_all_or_nothing operator operator 10 requests governance batch 1
    .execute unambiguous
  have hforwarded :
      (governance.forward operator timelock batch 1 .execute).isOk = true := by decide +kernel
  cases h : governance.forward operator timelock batch 1 .execute with
  | error error =>
    rw [h] at hforwarded
    cases hforwarded
  | ok done =>
    obtain ⟨-, -, readyAt, hfind, hchanged⟩ := heffect done.1 done.2 h
    exact ⟨done.1, done.2, readyAt, rfl, hfind, hchanged⟩

end Rehearsal

end HomeChain

end GovernanceRelay
