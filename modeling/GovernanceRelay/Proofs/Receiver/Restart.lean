import GovernanceRelay.Executor
import GovernanceRelay.Proofs.OrderedMap
import GovernanceRelay.Proofs.Snapshot.Form
import GovernanceRelay.Proofs.Wire.Canonical

/-!
# Restarts are not noticed

A ledger lists the messages carried out and those begun in strictly increasing order of their
identifiers, whatever the order in which they came (`Ledger.Lists`). It says everything that a
receiver remembers and counts calls in 64 bits, so counts that fit are written and read back as they
are (`Receiver.restore_ledger`). A count in it is positive, since an interrupted message is counted
only if some of its calls were made, and it fits 64 bits, since a call that fails has an index below
the number of bytes delivered (`ReceiverOver.Counting.receive`). So the receiver that goes on from a
ledger is the receiver that wrote it (`ReceiverOver.Counting.restore_ledger`), also if the ledger
was saved to bytes and read back (`ReceiverOver.Counting.reload_eq_ok_iff`), and nobody who makes
deliveries to it can tell that there was a restart (`ReceiverOver.restart_invisible`).
-/

set_option autoImplicit false

namespace GovernanceRelay

/-- A ledger lists messages as carried out and as begun, in order of their identifiers. -/
structure Ledger.Lists (ledger : Ledger) (isProcessed : Digest → Bool)
    (callsDone : Digest → Nat) : Prop where
  /-- Each message carried out stands behind all smaller ones. -/
  processed_sorted : ledger.processed.Pairwise fun one other => one.bytes < other.bytes
  /-- Each message begun stands behind all smaller ones. -/
  started_sorted : ledger.started.Pairwise fun one other => one.1.bytes < other.1.bytes
  /-- The messages carried out are listed. -/
  mem_processed : ∀ id, id ∈ ledger.processed ↔ isProcessed id = true
  /-- The messages of which calls were made are listed with the number of these calls. -/
  mem_started : ∀ id count,
    (id, count) ∈ ledger.started ↔ 0 < count.toNat ∧ callsDone id = count.toNat

namespace Receiver

/-- Every count of calls fits the ledger. -/
def Countable (receiver : Receiver) : Prop :=
  ∀ id count, receiver.started.find? id = some count → count < UInt64.size

/-- The receiver that goes on from a ledger remembers what the receiver that wrote it remembers. -/
theorem restore_ledger (recorder : Recorder) {receiver : Receiver}
    (countable : receiver.Countable) :
    restore recorder receiver.ledger = { receiver with recorder := recorder } := by
  -- the sets are listed as they are, so all that could be lost is in the counts
  have hstarted : (receiver.started.entries.map fun entry =>
      (entry.1, UInt64.ofNat entry.2)).map (fun entry => (entry.1, entry.2.toNat)) =
        receiver.started.entries := by
    have hsame : ∀ entry ∈ receiver.started.entries,
        (entry.1, (UInt64.ofNat entry.2).toNat) = entry := by
      intro entry hmem
      have hfind := (receiver.started.find?_eq_some_iff entry.1 entry.2).mpr hmem
      exact Prod.ext rfl (UInt64.toNat_ofNat_of_lt' (countable entry.1 entry.2 hfind))
    rw [List.map_map]
    exact (List.map_congr_left hsame).trans (List.map_id _)
  rw [restore, ledger]
  dsimp only
  rw [OrderedSet.ofList_keys, hstarted, OrderedMap.ofList_entries]

end Receiver

/-- A batch has no more calls than its written form has bytes. -/
theorem Wire.length_le_of_decode {bytes : Bytes} {batch : Batch}
    (h : decode bytes = .ok batch) : batch.instructions.length ≤ bytes.length := by
  obtain ⟨-, hbytes⟩ := (decode_eq_ok_iff bytes batch).mp h
  rw [hbytes]
  induction batch.instructions with
  | nil => exact Nat.zero_le _
  | cons call rest ih =>
    have hpos := List.length_pos_iff.mpr call.toWire_ne_nil
    rw [List.flatMap_cons, List.length_append, List.length_cons]
    omega

/-- A call that fails has the index of one of the calls. -/
theorem Executor.index_of_callFrom {ε : Type} [Executor ε] {index : Nat} {executor after : ε}
    {instructions : List Instruction} {failed : Nat × String}
    (h : callFrom index executor instructions = (some failed, after)) :
    index ≤ failed.1 ∧ failed.1 < index + instructions.length := by
  induction instructions generalizing index executor with
  | nil => cases h
  | cons instruction rest ih =>
    rw [callFrom] at h
    rcases hcall : call executor instruction with ⟨_ | reason, next⟩
    · rw [hcall] at h
      have hrest := ih h
      rw [List.length_cons]
      omega
    · rw [hcall] at h
      cases h
      simp

/-- A message as it arrives while mediators are in force. Its data is held in memory, where bytes are
counted in 64 bits. -/
structure Arrival where
  /-- Who is believed. -/
  mediators : Mediators
  /-- What arrives. -/
  message : Message
  /-- The data is held in memory. -/
  addressable : message.data.length < UInt64.size

/-- What happens to a receiver over an executor. -/
inductive ReceiverEvent (ε : Type) where
  /-- A message arrives. -/
  | arrive (arrival : Arrival)
  /-- The executor is put into another state. -/
  | equip (executor : ε)
  /-- The receiver is restarted from its ledger. -/
  | restart
  /-- The receiver is restarted from the bytes of its ledger, if it can be saved. -/
  | reload

namespace ReceiverOver

variable {ε : Type}

/-! ## Going on from a ledger -/

/-- The counts of calls are positive, and they fit the ledger. -/
def Counting (receiver : ReceiverOver ε) : Prop :=
  ∀ id count, receiver.started.find? id = some count → 0 < count ∧ count < UInt64.size

/-- The receiver that goes on from the bytes of the ledger. -/
def reload (receiver : ReceiverOver ε) : Except SnapshotError (ReceiverOver ε) :=
  receiver.ledger.encode.bind fun bytes =>
    (Ledger.ofBytes bytes).map (restore receiver.executor)

theorem counting_create (executor : ε) : (create executor).Counting :=
  fun _ _ h => by cases h

/-- A positive number of calls is counted. -/
theorem callsDone_eq_iff {receiver : ReceiverOver ε} {id : Digest} {count : Nat}
    (hpos : 0 < count) :
    receiver.callsDone id = count ↔ receiver.started.find? id = some count := by
  show (receiver.started.find? id).getD 0 = count ↔ _
  cases receiver.started.find? id with
  | none => simpa using Nat.ne_of_lt hpos
  | some given => simp

namespace Counting

variable {receiver : ReceiverOver ε} (counting : receiver.Counting)

include counting

/-- The receiver that goes on from the ledger is the one that wrote it. -/
theorem restore_ledger : restore receiver.executor receiver.ledger = receiver := by
  have countable : receiver.memory.Countable := fun id count h => (counting id count h).2
  rw [restore, ledger, Receiver.restore_ledger _ countable]
  rfl

/-- The receiver that goes on from the bytes of the ledger is the one that wrote it, and there is
one if the lists of the ledger can be counted. -/
theorem reload_eq_ok_iff (restored : ReceiverOver ε) :
    receiver.reload = .ok restored ↔ receiver.ledger.Countable ∧ restored = receiver := by
  rw [reload]
  by_cases countable : receiver.ledger.Countable
  · -- the form of the ledger is written, and the ledger is read back from it
    have hwritten := Ledger.oneForm.written _ countable
    have hread := (Ledger.oneForm.restored _ _).mpr hwritten
    rw [hwritten, Except.bind, hread, Except.map, counting.restore_ledger]
    simpa [countable] using eq_comm
  · rw [Ledger.oneForm.unwritten _ countable, Except.bind]
    simp [countable]

/-- The ledger lists what the receiver remembers. -/
theorem lists_ledger : receiver.ledger.Lists receiver.isProcessed receiver.callsDone where
  processed_sorted :=
    List.pairwise_map.mpr (receiver.processed.sorted.imp (FixedBytes.rank_lt_rank_iff _ _).mp)
  started_sorted :=
    List.pairwise_map.mpr (receiver.started.sorted.imp (FixedBytes.rank_lt_rank_iff _ _).mp)
  mem_processed id := receiver.processed.mem_keys_iff id
  mem_started id count := by
    have hmem : (id, count) ∈ receiver.ledger.started ↔
        ∃ given, receiver.started.find? id = some given ∧ UInt64.ofNat given = count := by
      simp only [OrderedMap.find?_eq_some_iff]
      show (id, count) ∈ receiver.started.entries.map _ ↔ _
      simp only [List.mem_map, Prod.exists, Prod.mk.injEq]
      constructor
      · rintro ⟨_, given, hentry, rfl, hcount⟩
        exact ⟨given, hentry, hcount⟩
      · rintro ⟨given, hentry, hcount⟩
        exact ⟨id, given, hentry, rfl, hcount⟩
    rw [hmem]
    constructor
    · rintro ⟨given, hfind, rfl⟩
      obtain ⟨hpos, hlt⟩ := counting id given hfind
      rw [UInt64.toNat_ofNat_of_lt' hlt]
      exact ⟨hpos, (callsDone_eq_iff hpos).mpr hfind⟩
    · rintro ⟨hpos, hdone⟩
      exact ⟨count.toNat, (callsDone_eq_iff hpos).mp hdone, UInt64.ofNat_toNat⟩

end Counting

/-- Receivers that tell the same of every message have the same ledger. -/
theorem ledger_congr {φ : Type} {receiver : ReceiverOver ε} {other : ReceiverOver φ}
    (counting : receiver.Counting) (counting' : other.Counting)
    (same : ∀ id, other.isProcessed id = receiver.isProcessed id ∧
      other.callsDone id = receiver.callsDone id) :
    other.ledger = receiver.ledger := by
  have hprocessed : other.processed = receiver.processed :=
    OrderedSet.ext_contains fun id => (same id).1
  have hstarted : other.started = receiver.started := by
    refine OrderedMap.ext_find? fun id => Option.ext fun count => ?_
    -- a count is positive on either side, so it is the number of calls made
    constructor
    · intro h
      have hpos := (counting' id count h).1
      rw [← callsDone_eq_iff hpos, ← (same id).2, callsDone_eq_iff hpos, h]
    · intro h
      have hpos := (counting id count h).1
      rw [← callsDone_eq_iff hpos, (same id).2, callsDone_eq_iff hpos, h]
  rw [ledger, memory, hprocessed, hstarted, ledger, memory]

/-! ## Runs -/

variable [Executor ε]

theorem Counting.carryOut {receiver : ReceiverOver ε} (counting : receiver.Counting) (id : Digest)
    {instructions : List Instruction} (few : instructions.length < UInt64.size) :
    (receiver.carryOut id instructions).2.Counting := by
  rw [ReceiverOver.carryOut]
  rcases hcalls : Executor.callFrom (receiver.callsDone id) receiver.executor
    (instructions.drop (receiver.callsDone id)) with ⟨_ | failed, after⟩
  · intro other count h
    simp only at h
    rw [OrderedMap.find?_erase] at h
    split at h
    · cases h
    · exact counting other count h
  · -- the call that failed is one of the batch
    have hindex := Executor.index_of_callFrom hcalls
    rw [List.length_drop] at hindex
    intro other count h
    simp only at h
    split at h
    · rename_i hpos
      rw [OrderedMap.find?_insert] at h
      split at h
      · cases h
        omega
      · exact counting other count h
    · exact counting other count h

theorem Counting.receive {receiver : ReceiverOver ε} (counting : receiver.Counting)
    (arrival : Arrival) :
    (receiver.receive arrival.mediators arrival.message).2.Counting := by
  simp only [ReceiverOver.receive]
  cases arrival.mediators.authenticate arrival.message.sourceChain arrival.message.sender with
  | error error => exact counting
  | ok mediator =>
    cases receiver.isProcessed arrival.message.id with
    | true => exact counting
    | false =>
      cases hdecode : Wire.decode arrival.message.data with
      | error error => exact counting
      | ok batch =>
        exact counting.carryOut _
          (Nat.lt_of_le_of_lt (Wire.length_le_of_decode hdecode) arrival.addressable)

/-- The receiver after an event. -/
def step (receiver : ReceiverOver ε) : ReceiverEvent ε → ReceiverOver ε
  | .arrive arrival => (receiver.receive arrival.mediators arrival.message).2
  | .equip executor => { receiver with executor := executor }
  | .restart => restore receiver.executor receiver.ledger
  | .reload =>
    match receiver.reload with
    | .ok restored => restored
    | .error _ => receiver

/-- The receiver after a number of events. -/
def run (receiver : ReceiverOver ε) (events : List (ReceiverEvent ε)) : ReceiverOver ε :=
  events.foldl step receiver

theorem Counting.step {receiver : ReceiverOver ε} (counting : receiver.Counting)
    (event : ReceiverEvent ε) : (receiver.step event).Counting := by
  cases event with
  | arrive arrival => exact counting.receive arrival
  | equip executor => exact counting
  | restart =>
    rw [ReceiverOver.step, counting.restore_ledger]
    exact counting
  | reload =>
    rw [ReceiverOver.step]
    cases hreload : receiver.reload with
    | error error => exact counting
    | ok restored =>
      rw [((counting.reload_eq_ok_iff restored).mp hreload).2]
      exact counting

theorem Counting.run {receiver : ReceiverOver ε} (counting : receiver.Counting)
    (events : List (ReceiverEvent ε)) : (receiver.run events).Counting := by
  induction events generalizing receiver with
  | nil => exact counting
  | cons event rest ih => exact ih (counting.step event)

/-- What is noticed of an event: the answer to a delivery, the state of the executor afterwards and
the ledger afterwards. -/
structure Noticed (ε : Type) where
  /-- The answer, if a message arrived. -/
  answer : Option (Except ReceiveFault ReceiveOutcome)
  /-- The executor afterwards. -/
  executor : ε
  /-- The ledger afterwards. -/
  ledger : Ledger

/-- What is noticed at a moment of a run. -/
def noticed (moment : Moment (ReceiverOver ε) (ReceiverEvent ε)) : Noticed ε where
  answer :=
    match moment.event with
    | .arrive arrival => some (moment.before.receive arrival.mediators arrival.message).1
    | _ => none
  executor := moment.after.executor
  ledger := moment.after.ledger

/-- Whatever happens to a receiver, over whatever executor: its ledger lists what it remembers in
strictly increasing order, and it is the ledger of every receiver that remembers the same. The
receiver that goes on from this ledger, or from the bytes of it, which there are if its lists can be
counted, is not to be told from the one that was not restarted by anything that happens later. -/
theorem restart_invisible (executor : ε) (events : List (ReceiverEvent ε)) :
    let receiver := (create executor).run events
    receiver.ledger.Lists receiver.isProcessed receiver.callsDone ∧
    (∀ (φ : Type) [Executor φ] (executor : φ) (events : List (ReceiverEvent φ)),
      let other := (create executor).run events
      (∀ id, other.isProcessed id = receiver.isProcessed id ∧
        other.callsDone id = receiver.callsDone id) → other.ledger = receiver.ledger) ∧
    (receiver.ledger.Countable → ∃ restored, receiver.reload = .ok restored) ∧
    ∀ restored,
      restored = restore receiver.executor receiver.ledger ∨ receiver.reload = .ok restored →
      ∀ later,
        (course step restored later).map noticed = (course step receiver later).map noticed := by
  intro receiver
  have counting : receiver.Counting := (counting_create executor).run events
  refine ⟨counting.lists_ledger, fun φ _ executor events => ?_, fun countable => ?_, ?_⟩
  · exact ledger_congr counting ((counting_create executor).run events)
  · exact ⟨receiver, (counting.reload_eq_ok_iff receiver).mpr ⟨countable, rfl⟩⟩
  · -- either way back leads to the receiver itself
    intro restored restarted later
    have hsame : restored = receiver := by
      rcases restarted with direct | saved
      · rw [direct, counting.restore_ledger]
      · exact ((counting.reload_eq_ok_iff restored).mp saved).2
    rw [hsame]

end ReceiverOver

end GovernanceRelay
