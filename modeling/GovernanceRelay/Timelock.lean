import GovernanceRelay.Authority
import GovernanceRelay.Digest.Blake3
import GovernanceRelay.Wire

/-!
# The timelock

Batches are scheduled by a proposer, become ready after a delay, and are then executed by an
executor, unless a canceller has withdrawn them; a withdrawn batch may be scheduled anew. A batch
is known by the digest of its wire format. The clock only moves forward and stops at its last
instant.
-/

set_option autoImplicit false

namespace GovernanceRelay

/-- A moment or a span of time, in seconds. -/
abbrev Seconds := UInt64

/-- The moment that comes a span of time later, or the last one there is. -/
def later (moment span : Seconds) : Seconds :=
  if moment.toNat + span.toNat < UInt64.size then moment + span
  else UInt64.ofNat (UInt64.size - 1)

/-- Time stops at the last moment. -/
theorem toNat_later (moment span : Seconds) :
    (later moment span).toNat = min (moment.toNat + span.toNat) (UInt64.size - 1) := by
  simp only [later, UInt64.size]
  split
  · rw [UInt64.toNat_add]
    omega
  · rw [UInt64.toNat_ofNat']
    omega

/-- What has become of a scheduled batch. -/
inductive OperationState where
  /-- It waits. -/
  | pending
  /-- It was executed. -/
  | done
  /-- It was withdrawn. -/
  | cancelled
deriving DecidableEq, Repr

/-- The word for the state. -/
def OperationState.toText : OperationState → String
  | .pending => "Pending"
  | .done => "Done"
  | .cancelled => "Cancelled"

/-- A batch that was scheduled. -/
structure Operation where
  /-- The batch. -/
  batch : Batch
  /-- The moment from which on it may be executed. -/
  readyAt : Seconds
  /-- What has become of it. -/
  state : OperationState
deriving DecidableEq

/-- Why the timelock refuses. -/
inductive TimelockError where
  /-- The caller does not hold the role that the request needs. -/
  | missingRole (account : Address) (role : Role)
  /-- The batch waits or was executed already. -/
  | alreadyScheduled (id : Digest)
  /-- No such batch waits. -/
  | unknownOperation (id : Digest)
  /-- The batch has to wait longer. -/
  | notReady (id : Digest) (readyAt now : Seconds)
  /-- The batch does not wait any more. -/
  | alreadyExecuted (id : Digest)
  /-- The batch has no wire format. -/
  | wire (error : WireError)
deriving DecidableEq

/-- The wording of each refusal. -/
def TimelockError.message : TimelockError → String
  | .missingRole account role =>
    "Account " ++ account.toText ++ " is missing role " ++ role.toText
  | .alreadyScheduled id => "Operation already scheduled: " ++ id.toText
  | .unknownOperation id => "Unknown operation: " ++ id.toText
  | .notReady id readyAt now =>
    "Operation " ++ id.toText ++ " not ready: ready at " ++ toString readyAt.toNat ++ ", now "
      ++ toString now.toNat
  | .alreadyExecuted id => "Operation already executed: " ++ id.toText
  | .wire error => "Codec error: " ++ error.message

/-- The bytes that a batch's identifier is the digest of. -/
def operationPreimage (batch : Batch) : Except WireError Bytes := Wire.encode batch

/-- The identifier of a batch. -/
def operationId (batch : Batch) : Except TimelockError Digest :=
  match operationPreimage batch with
  | .error error => .error (.wire error)
  | .ok bytes => .ok (blake3 bytes)

/-- A timelock with its own clock. -/
structure Timelock where
  /-- The timelock's account, which administers it at first. -/
  address : Address
  /-- Who may do what. -/
  roles : Authority
  /-- The delay between scheduling and readiness. -/
  minDelay : Seconds
  /-- The current moment. -/
  now : Seconds
  /-- Every batch ever scheduled. -/
  operations : OrderedMap Digest Operation
  /-- Every instruction executed, in order. -/
  executed : List Instruction
deriving DecidableEq

namespace Timelock

/-- A timelock at moment zero that administers itself. -/
def create (address : Address) (minDelay : Seconds) : Timelock where
  address := address
  roles := Authority.ofAdmin address
  minDelay := minDelay
  now := 0
  operations := OrderedMap.empty
  executed := []

/-- Let time pass. -/
def advance (timelock : Timelock) (span : Seconds) : Timelock :=
  { timelock with now := later timelock.now span }

/-- Grant a role without asking, before the timelock is in use. -/
def setupRole (timelock : Timelock) (role : Role) (account : Address) : Timelock :=
  { timelock with roles := timelock.roles.grant role account }

/-- The number of batches that wait. -/
def pendingCount (timelock : Timelock) : Nat :=
  (timelock.operations.entries.filter fun entry => entry.2.state == .pending).length

/-- The refusal of an account that does not hold a role. -/
def missing? (timelock : Timelock) (role : Role) (account : Address) : Option TimelockError :=
  if timelock.roles.holds role account then none else some (.missingRole account role)

/-- Schedule a batch for the end of the delay. -/
def schedule (timelock : Timelock) (caller : Address) (batch : Batch) :
    Except TimelockError (Digest × Timelock) :=
  match timelock.missing? .proposer caller with
  | some error => .error error
  | none =>
    match operationId batch with
    | .error error => .error error
    | .ok id =>
      let scheduled := { timelock with
        operations := timelock.operations.insert id
          ⟨batch, later timelock.now timelock.minDelay, .pending⟩ }
      match timelock.operations.find? id with
      | none => .ok (id, scheduled)
      | some operation =>
        if operation.state = .cancelled then .ok (id, scheduled)
        else .error (.alreadyScheduled id)

/-- Execute the batch that was scheduled under the identifier of the given one. -/
def execute (timelock : Timelock) (caller : Address) (batch : Batch) :
    Except TimelockError (Digest × Timelock) :=
  match timelock.missing? .executor caller with
  | some error => .error error
  | none =>
    match operationId batch with
    | .error error => .error error
    | .ok id =>
      match timelock.operations.find? id with
      | none => .error (.unknownOperation id)
      | some operation =>
        match operation.state with
        | .done => .error (.alreadyExecuted id)
        | .cancelled => .error (.unknownOperation id)
        | .pending =>
          if timelock.now < operation.readyAt then
            .error (.notReady id operation.readyAt timelock.now)
          else
            .ok (id, { timelock with
              operations := timelock.operations.insert id { operation with state := .done }
              executed := timelock.executed ++ operation.batch.instructions })

/-- Withdraw a batch that waits. -/
def cancel (timelock : Timelock) (caller : Address) (id : Digest) :
    Except TimelockError Timelock :=
  match timelock.missing? .canceller caller with
  | some error => .error error
  | none =>
    match timelock.operations.find? id with
    | none => .error (.unknownOperation id)
    | some operation =>
      if operation.state = .pending then
        .ok { timelock with
          operations := timelock.operations.insert id { operation with state := .cancelled } }
      else .error (.alreadyExecuted id)

/-- Change the holders of a role on behalf of an admin. -/
def applyStep (timelock : Timelock) (caller : Address) (step : RoleStep) :
    Except TimelockError Timelock :=
  match timelock.missing? .admin caller with
  | some error => .error error
  | none => .ok { timelock with roles := timelock.roles.apply step }

end Timelock

end GovernanceRelay
