import GovernanceRelay.Proofs.Course
import GovernanceRelay.Timelock

/-!
# Requests to a timelock

Everything that is done with a timelock, from giving out roles and letting time pass to scheduling,
executing and cancelling batches, is a request that it answers or refuses (`Timelock.answer`). A
request that is refused leaves the timelock as it was, so there is a timelock after every request
(`Timelock.after`). `Timelock.Granted` says for every kind of request what is asked of it, what is
reported and what the timelock is afterwards; exactly these requests are answered
(`Timelock.answer_eq_ok_iff`).
-/

set_option autoImplicit false

namespace GovernanceRelay

/-- What is asked of a timelock. -/
inductive TimelockRequest where
  /-- Grant a role without asking. -/
  | setupRole (role : Role) (account : Address)
  /-- Let time pass. -/
  | advance (span : Seconds)
  /-- Schedule a batch. -/
  | schedule (caller : Address) (batch : Batch)
  /-- Execute a batch. -/
  | execute (caller : Address) (batch : Batch)
  /-- Withdraw the batch with an identifier. -/
  | cancel (caller : Address) (id : Digest)
  /-- Grant or revoke a role. -/
  | changeRole (caller : Address) (step : RoleStep)

/-- The role that a request asks for and the account that makes it, unless nobody is asked. -/
def TimelockRequest.needs? : TimelockRequest → Option (Role × Address)
  | setupRole _ _ => none
  | advance _ => none
  | schedule caller _ => some (.proposer, caller)
  | execute caller _ => some (.executor, caller)
  | cancel caller _ => some (.canceller, caller)
  | changeRole caller _ => some (.admin, caller)

/-- What a timelock reports of a request that it granted. -/
inductive TimelockReport where
  /-- The clock or the roles were changed. -/
  | arranged
  /-- A batch waits under the identifier. -/
  | scheduled (id : Digest)
  /-- The batch with the identifier was executed. -/
  | executed (id : Digest)
  /-- The batch with the identifier was withdrawn. -/
  | cancelled (id : Digest)
deriving DecidableEq

/-- The identifier of the batch that a report is about. -/
def TimelockReport.id? : TimelockReport → Option Digest
  | arranged => none
  | scheduled id => some id
  | executed id => some id
  | cancelled id => some id

namespace Timelock

/-- The answer of a timelock to a request. -/
def answer (timelock : Timelock) :
    TimelockRequest → Except TimelockError (TimelockReport × Timelock)
  | .setupRole role account => .ok (.arranged, timelock.setupRole role account)
  | .advance span => .ok (.arranged, timelock.advance span)
  | .schedule caller batch =>
    (timelock.schedule caller batch).map fun done => (.scheduled done.1, done.2)
  | .execute caller batch =>
    (timelock.execute caller batch).map fun done => (.executed done.1, done.2)
  | .cancel caller id => (timelock.cancel caller id).map fun done => (.cancelled id, done)
  | .changeRole caller step => (timelock.applyStep caller step).map fun done => (.arranged, done)

/-- The timelock after a request. -/
def after (timelock : Timelock) (request : TimelockRequest) : Timelock :=
  match timelock.answer request with
  | .ok (_, changed) => changed
  | .error _ => timelock

/-- The timelock after a number of requests. -/
def run (timelock : Timelock) (requests : List TimelockRequest) : Timelock :=
  requests.foldl after timelock

/-- What is reported of a request, if it is granted. -/
def report? (timelock : Timelock) (request : TimelockRequest) : Option TimelockReport :=
  match timelock.answer request with
  | .ok (report, _) => some report
  | .error _ => none

/-- The timelock with a batch that waits. -/
def enqueue (timelock : Timelock) (id : Digest) (batch : Batch) : Timelock :=
  { timelock with
    operations := timelock.operations.insert id
      ⟨batch, later timelock.now timelock.minDelay, .pending⟩ }

/-- The timelock after it executed what was scheduled under an identifier. -/
def complete (timelock : Timelock) (id : Digest) (operation : Operation) : Timelock :=
  { timelock with
    operations := timelock.operations.insert id { operation with state := .done }
    executed := timelock.executed ++ operation.batch.instructions }

/-- The timelock after what was scheduled under an identifier is withdrawn. -/
def withdraw (timelock : Timelock) (id : Digest) (operation : Operation) : Timelock :=
  { timelock with
    operations := timelock.operations.insert id { operation with state := .cancelled } }

/-- A request that is in order, what is reported of it and the timelock afterwards. -/
inductive Granted (timelock : Timelock) :
    TimelockRequest → TimelockReport × Timelock → Prop
  | setupRole {role : Role} {account : Address} :
      Granted timelock (.setupRole role account) (.arranged, timelock.setupRole role account)
  | advance {span : Seconds} :
      Granted timelock (.advance span) (.arranged, timelock.advance span)
  | schedule {caller : Address} {batch : Batch} {id : Digest} :
      timelock.roles.holds .proposer caller = true →
      operationId batch = .ok id →
      (∀ operation, timelock.operations.find? id = some operation → operation.state = .cancelled) →
      Granted timelock (.schedule caller batch) (.scheduled id, timelock.enqueue id batch)
  | execute {caller : Address} {batch : Batch} {id : Digest} {operation : Operation} :
      timelock.roles.holds .executor caller = true →
      operationId batch = .ok id →
      timelock.operations.find? id = some operation →
      operation.state = .pending →
      operation.readyAt ≤ timelock.now →
      Granted timelock (.execute caller batch) (.executed id, timelock.complete id operation)
  | cancel {caller : Address} {id : Digest} {operation : Operation} :
      timelock.roles.holds .canceller caller = true →
      timelock.operations.find? id = some operation →
      operation.state = .pending →
      Granted timelock (.cancel caller id) (.cancelled id, timelock.withdraw id operation)
  | changeRole {caller : Address} {step : RoleStep} :
      timelock.roles.holds .admin caller = true →
      Granted timelock (.changeRole caller step)
        (.arranged, { timelock with roles := timelock.roles.apply step })

/-! ## One kind of request after the other -/

section Requests

variable (timelock : Timelock) (caller : Address)

/-- A batch is scheduled exactly if a proposer asks for it, it has an identifier, and whatever is
known under this identifier was withdrawn. -/
theorem schedule_eq_ok_iff (batch : Batch) (done : Digest × Timelock) :
    timelock.schedule caller batch = .ok done ↔
      timelock.roles.holds .proposer caller = true ∧
        ∃ id, operationId batch = .ok id ∧
          (∀ operation, timelock.operations.find? id = some operation →
            operation.state = .cancelled) ∧
          done = (id, timelock.enqueue id batch) := by
  rw [schedule, missing?]
  cases timelock.roles.holds .proposer caller with
  | false => simp
  | true =>
    cases operationId batch with
    | error error => simp
    | ok id =>
      cases hfind : timelock.operations.find? id with
      | none => simp [hfind, enqueue, eq_comm]
      | some operation =>
        by_cases hstate : operation.state = .cancelled
        · simp [hfind, hstate, enqueue, eq_comm]
        · simp [hfind, hstate]

/-- A batch is executed exactly if an executor asks for it and what is known under its identifier
waits and is ready. -/
theorem execute_eq_ok_iff (batch : Batch) (done : Digest × Timelock) :
    timelock.execute caller batch = .ok done ↔
      timelock.roles.holds .executor caller = true ∧
        ∃ id, operationId batch = .ok id ∧
          ∃ operation, timelock.operations.find? id = some operation ∧
            operation.state = .pending ∧ operation.readyAt ≤ timelock.now ∧
            done = (id, timelock.complete id operation) := by
  rw [execute, missing?]
  cases timelock.roles.holds .executor caller with
  | false => simp
  | true =>
    cases operationId batch with
    | error error => simp
    | ok id =>
      cases hfind : timelock.operations.find? id with
      | none => simp [hfind]
      | some operation =>
        cases hstate : operation.state with
        | done => simp [hfind, hstate]
        | cancelled => simp [hfind, hstate]
        | pending =>
          by_cases hready : timelock.now < operation.readyAt
          · simp [hfind, hstate, hready, UInt64.not_le.mpr hready]
          · simp [hfind, hstate, hready, UInt64.not_lt.mp hready, complete, eq_comm]

/-- What is known under an identifier is withdrawn exactly if a canceller asks for it and it
waits. -/
theorem cancel_eq_ok_iff (id : Digest) (done : Timelock) :
    timelock.cancel caller id = .ok done ↔
      timelock.roles.holds .canceller caller = true ∧
        ∃ operation, timelock.operations.find? id = some operation ∧
          operation.state = .pending ∧ done = timelock.withdraw id operation := by
  rw [cancel, missing?]
  cases timelock.roles.holds .canceller caller with
  | false => simp
  | true =>
    cases timelock.operations.find? id with
    | none => simp
    | some operation =>
      by_cases hstate : operation.state = .pending
      · simp [hstate, withdraw, eq_comm]
      · simp [hstate]

/-- An admin's change of a role is applied. -/
theorem applyStep_eq_ok_iff (step : RoleStep) (done : Timelock) :
    timelock.applyStep caller step = .ok done ↔
      timelock.roles.holds .admin caller = true ∧
        done = { timelock with roles := timelock.roles.apply step } := by
  rw [applyStep, missing?]
  cases timelock.roles.holds .admin caller <;> simp [eq_comm]

end Requests

/-- A request is answered exactly if it is in order. -/
theorem answer_eq_ok_iff (timelock : Timelock) (request : TimelockRequest)
    (done : TimelockReport × Timelock) :
    timelock.answer request = .ok done ↔ timelock.Granted request done := by
  constructor
  · intro h
    cases request with
    | setupRole role account =>
      cases h
      exact .setupRole
    | advance span =>
      cases h
      exact .advance
    | schedule caller batch =>
      obtain ⟨given, hgiven, rfl⟩ := (except_map_eq_ok_iff _ _ _).mp h
      obtain ⟨hholds, id, hid, hfree, rfl⟩ := (schedule_eq_ok_iff _ _ _ _).mp hgiven
      exact .schedule hholds hid hfree
    | execute caller batch =>
      obtain ⟨given, hgiven, rfl⟩ := (except_map_eq_ok_iff _ _ _).mp h
      obtain ⟨hholds, id, hid, operation, hfind, hstate, hready, rfl⟩ :=
        (execute_eq_ok_iff _ _ _ _).mp hgiven
      exact .execute hholds hid hfind hstate hready
    | cancel caller id =>
      obtain ⟨given, hgiven, rfl⟩ := (except_map_eq_ok_iff _ _ _).mp h
      obtain ⟨hholds, operation, hfind, hstate, rfl⟩ := (cancel_eq_ok_iff _ _ _ _).mp hgiven
      exact .cancel hholds hfind hstate
    | changeRole caller step =>
      obtain ⟨given, hgiven, rfl⟩ := (except_map_eq_ok_iff _ _ _).mp h
      obtain ⟨hholds, rfl⟩ := (applyStep_eq_ok_iff _ _ _ _).mp hgiven
      exact .changeRole hholds
  · intro granted
    cases granted with
    | setupRole => rfl
    | advance => rfl
    | schedule hholds hid hfree =>
      exact (except_map_eq_ok_iff _ _ _).mpr
        ⟨_, (schedule_eq_ok_iff _ _ _ _).mpr ⟨hholds, _, hid, hfree, rfl⟩, rfl⟩
    | execute hholds hid hfind hstate hready =>
      exact (except_map_eq_ok_iff _ _ _).mpr
        ⟨_, (execute_eq_ok_iff _ _ _ _).mpr ⟨hholds, _, hid, _, hfind, hstate, hready, rfl⟩, rfl⟩
    | cancel hholds hfind hstate =>
      exact (except_map_eq_ok_iff _ _ _).mpr
        ⟨_, (cancel_eq_ok_iff _ _ _ _).mpr ⟨hholds, _, hfind, hstate, rfl⟩, rfl⟩
    | changeRole hholds =>
      exact (except_map_eq_ok_iff _ _ _).mpr
        ⟨_, (applyStep_eq_ok_iff _ _ _ _).mpr ⟨hholds, rfl⟩, rfl⟩

theorem after_of_answer {timelock changed : Timelock} {request : TimelockRequest}
    {report : TimelockReport} (h : timelock.answer request = .ok (report, changed)) :
    timelock.after request = changed ∧ timelock.report? request = some report := by
  simp [after, report?, h]

theorem after_of_refused {timelock : Timelock} {request : TimelockRequest} {error : TimelockError}
    (h : timelock.answer request = .error error) :
    timelock.after request = timelock ∧ timelock.report? request = none := by
  simp [after, report?, h]

/-- A request is refused and changes nothing, or is granted. -/
theorem refused_or_granted (timelock : Timelock) (request : TimelockRequest) :
    (timelock.report? request = none ∧ timelock.after request = timelock) ∨
      ∃ report, timelock.report? request = some report ∧
        timelock.Granted request (report, timelock.after request) := by
  cases h : timelock.answer request with
  | error error => exact .inl (after_of_refused h).symm
  | ok done =>
    obtain ⟨report, changed⟩ := done
    obtain ⟨rfl, hreport⟩ := after_of_answer h
    exact .inr ⟨report, hreport, (timelock.answer_eq_ok_iff request _).mp h⟩

/-- What is reported of a request was granted. -/
theorem granted_of_report? {timelock : Timelock} {request : TimelockRequest}
    {report : TimelockReport} (h : timelock.report? request = some report) :
    ∃ changed, timelock.after request = changed ∧ timelock.Granted request (report, changed) := by
  rcases timelock.refused_or_granted request with ⟨hnone, -⟩ | ⟨given, hgiven, granted⟩
  · cases hnone.symm.trans h
  · cases hgiven.symm.trans h
    exact ⟨_, rfl, granted⟩

/-- A request is granted only to an account that holds the role that it asks for. -/
theorem Granted.holds {timelock : Timelock} {request : TimelockRequest}
    {done : TimelockReport × Timelock} (granted : timelock.Granted request done) {role : Role}
    {caller : Address} (hneeds : request.needs? = some (role, caller)) :
    timelock.roles.holds role caller = true := by
  cases granted with
  | setupRole => cases hneeds
  | advance => cases hneeds
  | schedule hholds _ _ =>
    cases hneeds
    exact hholds
  | execute hholds _ _ _ _ =>
    cases hneeds
    exact hholds
  | cancel hholds _ _ =>
    cases hneeds
    exact hholds
  | changeRole hholds =>
    cases hneeds
    exact hholds

/-- A batch that is reported to be executed waited under its identifier and was ready. -/
theorem executing_of_report? {timelock : Timelock} {request : TimelockRequest} {id : Digest}
    (h : timelock.report? request = some (.executed id)) :
    ∃ caller batch operation, request = .execute caller batch ∧ operationId batch = .ok id ∧
      timelock.operations.find? id = some operation ∧ operation.state = .pending ∧
      operation.readyAt ≤ timelock.now ∧
      timelock.after request = timelock.complete id operation := by
  obtain ⟨changed, hafter, granted⟩ := granted_of_report? h
  cases granted with
  | execute _ hid hfind hpending hready =>
    exact ⟨_, _, _, rfl, hid, hfind, hpending, hready, hafter⟩

end Timelock

end GovernanceRelay
