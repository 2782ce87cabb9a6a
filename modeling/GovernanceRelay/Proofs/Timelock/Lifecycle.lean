import GovernanceRelay.Proofs.Timelock.Granted

/-!
# The life of a scheduled batch

A batch that was never scheduled or was withdrawn can be scheduled, waits then, and is executed or
withdrawn; what was executed stays so (`OperationState.Follows`). A timelock is accounted for by the
course of its requests (`Timelock.Accounted`) if every batch stands under its own identifier, what
waits was scheduled at some moment and left alone since, and the instructions executed are those of
the batches executed, each once and in order. Every request keeps this (`Timelock.Accounted.step`),
so it holds of every timelock that is in use, and with it follows what becomes of its batches
(`Timelock.lifecycle`).
-/

set_option autoImplicit false

namespace GovernanceRelay

/-- Which state of a batch follows which, none being that of a batch that was never scheduled. -/
inductive OperationState.Follows : Option OperationState → OperationState → Prop
  | scheduled : Follows none .pending
  | scheduledAnew : Follows (some .cancelled) .pending
  | executed : Follows (some .pending) .done
  | withdrawn : Follows (some .pending) .cancelled

/-- The identifier of the batch that a report says was executed. -/
def TimelockReport.executed? : TimelockReport → Option Digest
  | executed id => some id
  | _ => none

/-- What the timelock reported at a moment. -/
def Moment.report? (moment : Moment Timelock TimelockRequest) : Option TimelockReport :=
  moment.before.report? moment.event

/-- The batches that were executed, by their identifiers, in order. -/
def executions (past : List (Moment Timelock TimelockRequest)) : List Digest :=
  past.filterMap fun moment => moment.report?.bind TimelockReport.executed?

namespace Timelock

/-- The state of the batch with an identifier, if it was ever scheduled. -/
def stateOf? (timelock : Timelock) (id : Digest) : Option OperationState :=
  (timelock.operations.find? id).map Operation.state

/-- The instructions of the batch with an identifier, none if it was never scheduled. -/
def instructionsOf (timelock : Timelock) (id : Digest) : List Instruction :=
  match timelock.operations.find? id with
  | some operation => operation.batch.instructions
  | none => []

theorem stateOf?_of_find? {timelock : Timelock} {id : Digest} {operation : Operation}
    (hfind : timelock.operations.find? id = some operation) :
    timelock.stateOf? id = some operation.state := by
  rw [stateOf?, hfind, Option.map_some]

/-- If only what is known under one identifier changes, other batches have the instructions that
they had. -/
theorem flatMap_instructionsOf_of_not_mem {timelock changed : Timelock} {id : Digest}
    {operation : Operation}
    (hoperations : changed.operations = timelock.operations.insert id operation)
    {ids : List Digest} (habsent : id ∉ ids) :
    ids.flatMap changed.instructionsOf = ids.flatMap timelock.instructionsOf := by
  rw [List.flatMap_def, List.flatMap_def]
  refine congrArg List.flatten (List.map_congr_left fun other hmem => ?_)
  have hne : other ≠ id := fun heq => habsent (heq ▸ hmem)
  rw [instructionsOf, hoperations, OrderedMap.find?_insert, if_neg hne, ← instructionsOf]

/-! ## One request -/

section Request

variable {timelock changed : Timelock} {request : TimelockRequest} {report : TimelockReport}

/-- A request that reports nothing of any batch changes nothing about batches. -/
theorem Granted.keeps (granted : timelock.Granted request (report, changed))
    (hid : report.id? = none) :
    changed.operations = timelock.operations ∧ changed.executed = timelock.executed := by
  cases granted with
  | setupRole => exact ⟨rfl, rfl⟩
  | advance => exact ⟨rfl, rfl⟩
  | changeRole => exact ⟨rfl, rfl⟩
  | schedule => cases hid
  | execute => cases hid
  | cancel => cases hid

/-- A request that reports something of a batch changes what is known under its identifier, and
that only, to what may follow it. -/
theorem Granted.replaces (granted : timelock.Granted request (report, changed)) {id : Digest}
    (hid : report.id? = some id) :
    ∃ operation, changed.operations = timelock.operations.insert id operation ∧
      OperationState.Follows (timelock.stateOf? id) operation.state := by
  cases granted with
  | setupRole => cases hid
  | advance => cases hid
  | changeRole => cases hid
  | schedule _ _ hfree =>
    cases hid
    refine ⟨_, rfl, ?_⟩
    cases hknown : timelock.operations.find? id with
    | none =>
      rw [stateOf?, hknown]
      exact .scheduled
    | some known =>
      rw [stateOf?_of_find? hknown, hfree known hknown]
      exact .scheduledAnew
  | execute _ _ hfind hpending =>
    cases hid
    refine ⟨_, rfl, ?_⟩
    rw [stateOf?_of_find? hfind, hpending]
    exact .executed
  | cancel _ hfind hpending =>
    cases hid
    refine ⟨_, rfl, ?_⟩
    rw [stateOf?_of_find? hfind, hpending]
    exact .withdrawn

/-- A request leaves alone what is known under other identifiers than that which is reported. -/
theorem Granted.find?_of_ne (granted : timelock.Granted request (report, changed)) {id : Digest}
    (hne : report.id? ≠ some id) :
    changed.operations.find? id = timelock.operations.find? id := by
  cases hid : report.id? with
  | none => rw [(granted.keeps hid).1]
  | some other =>
    obtain ⟨operation, hoperations, -⟩ := granted.replaces hid
    have hother : id ≠ other := fun heq => hne (heq ▸ hid)
    rw [hoperations, OrderedMap.find?_insert, if_neg hother]

end Request

/-- The state of a batch stays or is followed by another. -/
theorem stateOf?_after (timelock : Timelock) (request : TimelockRequest) (id : Digest) :
    (timelock.after request).stateOf? id = timelock.stateOf? id ∨
      ∃ state, (timelock.after request).stateOf? id = some state ∧
        OperationState.Follows (timelock.stateOf? id) state := by
  rcases timelock.refused_or_granted request with ⟨-, hafter⟩ | ⟨report, -, granted⟩
  · rw [hafter]
    exact .inl rfl
  · by_cases hid : report.id? = some id
    · obtain ⟨operation, hoperations, follows⟩ := granted.replaces hid
      refine .inr ⟨operation.state, stateOf?_of_find? ?_, follows⟩
      rw [hoperations, OrderedMap.find?_insert, if_pos rfl]
    · exact .inl (congrArg (Option.map Operation.state) (granted.find?_of_ne hid))

/-- What was executed stays as it is. -/
theorem find?_after_of_done {timelock : Timelock} {id : Digest} {operation : Operation}
    (hfind : timelock.operations.find? id = some operation) (hdone : operation.state = .done)
    (request : TimelockRequest) :
    (timelock.after request).operations.find? id = some operation := by
  rcases timelock.refused_or_granted request with ⟨-, hafter⟩ | ⟨report, -, granted⟩
  · rw [hafter, hfind]
  · rw [granted.find?_of_ne, hfind]
    intro hid
    -- no state follows that of an executed batch
    obtain ⟨_, -, follows⟩ := granted.replaces hid
    rw [stateOf?_of_find? hfind, hdone] at follows
    cases follows

/-! ## A timelock and the course of its requests -/

/-- An operation was scheduled under an identifier, for the end of the delay, and nothing has become
of it since. -/
def Waiting (minDelay : Seconds) (past : List (Moment Timelock TimelockRequest)) (id : Digest)
    (operation : Operation) : Prop :=
  ∃ earlier scheduling since caller, past = earlier ++ scheduling :: since ∧
    scheduling.event = .schedule caller operation.batch ∧
    scheduling.report? = some (.scheduled id) ∧
    operation.readyAt = later scheduling.before.now minDelay ∧
    ∀ moment ∈ since, ∀ report, moment.report? = some report → report.id? ≠ some id

/-- What a timelock holds is accounted for by what was asked of it. -/
structure Accounted (minDelay : Seconds) (timelock : Timelock)
    (past : List (Moment Timelock TimelockRequest)) : Prop where
  /-- The delay is the one that the timelock began with. -/
  delay : timelock.minDelay = minDelay
  /-- Every batch stands under its own identifier. -/
  keyed : ∀ id operation, timelock.operations.find? id = some operation →
    operationId operation.batch = .ok id
  /-- What waits was scheduled and left alone since. -/
  waiting : ∀ id operation, timelock.operations.find? id = some operation →
    operation.state = .pending → Waiting minDelay past id operation
  /-- The batches that are done are those that were executed. -/
  done : ∀ id, timelock.stateOf? id = some .done ↔ id ∈ executions past
  /-- No batch was executed twice. -/
  once : (executions past).Nodup
  /-- The instructions executed are those of these batches, in order. -/
  account : timelock.executed = (executions past).flatMap timelock.instructionsOf

theorem accounted_create (address : Address) (minDelay : Seconds) :
    Accounted minDelay (create address minDelay) [] where
  delay := rfl
  keyed id operation h := by cases h
  waiting id operation h := by cases h
  done id := by simp [stateOf?, create, executions]
  once := List.nodup_nil
  account := rfl

theorem executions_concat (past : List (Moment Timelock TimelockRequest))
    (moment : Moment Timelock TimelockRequest) :
    executions (past ++ [moment]) =
      executions past ++ (moment.report?.bind TimelockReport.executed?).toList := by
  rw [executions, executions, List.filterMap_append]
  cases h : moment.report?.bind TimelockReport.executed? <;> simp [h]

theorem Waiting.concat {minDelay : Seconds} {past : List (Moment Timelock TimelockRequest)}
    {id : Digest} {operation : Operation} (waiting : Waiting minDelay past id operation)
    {moment : Moment Timelock TimelockRequest}
    (hne : ∀ report, moment.report? = some report → report.id? ≠ some id) :
    Waiting minDelay (past ++ [moment]) id operation := by
  obtain ⟨earlier, scheduling, since, caller, rfl, hevent, hreport, hready, hsince⟩ := waiting
  refine ⟨earlier, scheduling, since ++ [moment], caller, by simp, hevent, hreport, hready, ?_⟩
  exact List.forall_mem_append.mpr ⟨hsince, List.forall_mem_singleton.mpr hne⟩

section Step

variable {minDelay : Seconds} {timelock changed : Timelock}
  {past : List (Moment Timelock TimelockRequest)} {moment : Moment Timelock TimelockRequest}

/-- A moment at which nothing becomes of any batch keeps the timelock accounted for. -/
theorem Accounted.idle (accounted : Accounted minDelay timelock past)
    (hdelay : changed.minDelay = timelock.minDelay)
    (hoperations : changed.operations = timelock.operations)
    (hexecuted : changed.executed = timelock.executed)
    (hreport : ∀ report, moment.report? = some report → report.id? = none) :
    Accounted minDelay changed (past ++ [moment]) := by
  have hnone : moment.report?.bind TimelockReport.executed? = none := by
    cases h : moment.report? with
    | none => rfl
    | some report =>
      have hid := hreport report h
      cases report with
      | executed id => cases hid
      | _ => rfl
  have hsame : executions (past ++ [moment]) = executions past := by
    rw [executions_concat, hnone, Option.toList_none, List.append_nil]
  have hstate : ∀ id, changed.stateOf? id = timelock.stateOf? id := fun id => by
    rw [stateOf?, stateOf?, hoperations]
  have hinstructions : changed.instructionsOf = timelock.instructionsOf := by
    funext id
    rw [instructionsOf, instructionsOf, hoperations]
  refine
    { delay := hdelay.trans accounted.delay, keyed := ?keyed, waiting := ?waiting, done := ?done,
      once := ?once, account := ?account }
  case keyed =>
    rw [hoperations]
    exact accounted.keyed
  case waiting =>
    rw [hoperations]
    intro id operation hfind hpending
    refine (accounted.waiting id operation hfind hpending).concat fun report h => ?_
    rw [hreport report h]
    exact nofun
  case done =>
    intro id
    rw [hstate, hsame]
    exact accounted.done id
  case once =>
    rw [hsame]
    exact accounted.once
  case account =>
    rw [hsame, hexecuted, hinstructions]
    exact accounted.account

/-- A moment at which something becomes of one batch that was not executed before keeps the timelock
accounted for, if the batch is listed as executed exactly if it is done. -/
theorem Accounted.replace (accounted : Accounted minDelay timelock past) {id : Digest}
    {operation : Operation} {report : TimelockReport}
    (hdelay : changed.minDelay = timelock.minDelay)
    (hoperations : changed.operations = timelock.operations.insert id operation)
    (hexecuted : changed.executed = timelock.executed ++
      if operation.state = .done then operation.batch.instructions else [])
    (hreport : moment.report? = some report) (hid : report.id? = some id)
    (hlisted : report.executed? = if operation.state = .done then some id else none)
    (hfresh : timelock.stateOf? id ≠ some .done)
    (hkeyed : operationId operation.batch = .ok id)
    (hwaiting : operation.state = .pending → Waiting minDelay (past ++ [moment]) id operation) :
    Accounted minDelay changed (past ++ [moment]) := by
  have habsent : id ∉ executions past := fun hmem => hfresh ((accounted.done id).mpr hmem)
  have hlist : executions (past ++ [moment]) =
      executions past ++ if operation.state = .done then [id] else [] := by
    rw [executions_concat, hreport, Option.bind_some, hlisted]
    split <;> rfl
  have hfind : ∀ other, changed.operations.find? other =
      if other = id then some operation else timelock.operations.find? other := fun other => by
    rw [hoperations, OrderedMap.find?_insert]
  refine
    { delay := hdelay.trans accounted.delay, keyed := ?keyed, waiting := ?waiting, done := ?done,
      once := ?once, account := ?account }
  case keyed =>
    intro other known h
    rw [hfind] at h
    by_cases heq : other = id
    · rw [if_pos heq] at h
      cases h
      exact heq ▸ hkeyed
    · rw [if_neg heq] at h
      exact accounted.keyed other known h
  case waiting =>
    intro other known h hpending
    rw [hfind] at h
    by_cases heq : other = id
    · rw [if_pos heq] at h
      cases h
      exact heq ▸ hwaiting hpending
    · -- the other batches are not what is reported of
      rw [if_neg heq] at h
      refine (accounted.waiting other known h hpending).concat fun given hgiven => ?_
      cases hreport.symm.trans hgiven
      rw [hid]
      exact fun hsame => heq (Option.some.inj hsame).symm
  case done =>
    intro other
    rw [stateOf?, hfind, hlist, List.mem_append, ← accounted.done other]
    by_cases heq : other = id
    · subst heq
      rw [if_pos rfl, Option.map_some, or_iff_right hfresh]
      split <;> simp [*]
    · rw [if_neg heq, ← stateOf?]
      split <;> simp [heq]
  case once =>
    rw [hlist]
    split
    · refine List.nodup_append.mpr ⟨accounted.once, List.pairwise_singleton _ _, ?_⟩
      intro other hmem last hlast heq
      rw [heq, List.mem_singleton.mp hlast] at hmem
      exact habsent hmem
    · rw [List.append_nil]
      exact accounted.once
  case account =>
    rw [hexecuted, hlist, List.flatMap_append,
      flatMap_instructionsOf_of_not_mem hoperations habsent, ← accounted.account]
    split
    · rw [List.flatMap_singleton, instructionsOf, hfind, if_pos rfl]
    · rfl

/-- A request that is granted keeps the timelock accounted for. -/
theorem Accounted.granted (accounted : Accounted minDelay timelock past)
    {request : TimelockRequest} {report : TimelockReport}
    (granted : timelock.Granted request (report, changed))
    (hreport : timelock.report? request = some report) :
    Accounted minDelay changed (past ++ [⟨timelock, request, changed⟩]) := by
  have hidle : report.id? = none → ∀ given,
      Moment.report? ⟨timelock, request, changed⟩ = some given → given.id? = none :=
    fun hid given h => Option.some.inj (hreport.symm.trans h) ▸ hid
  cases granted with
  | setupRole => exact accounted.idle rfl rfl rfl (hidle rfl)
  | advance => exact accounted.idle rfl rfl rfl (hidle rfl)
  | changeRole => exact accounted.idle rfl rfl rfl (hidle rfl)
  | @schedule caller batch id _ hkeyed hfree =>
    refine accounted.replace rfl rfl ?_ hreport rfl rfl ?_ hkeyed fun _ => ?_
    · exact (List.append_nil _).symm
    · intro hdone
      obtain ⟨known, hknown, hstate⟩ := Option.map_eq_some_iff.mp hdone
      rw [hfree known hknown] at hstate
      cases hstate
    · refine ⟨past, _, [], caller, rfl, rfl, hreport, ?_, by simp⟩
      rw [accounted.delay]
  | @execute _ _ id operation _ _ hfind hpending _ =>
    refine accounted.replace rfl rfl rfl hreport rfl rfl ?_ (accounted.keyed id operation hfind)
      fun h => by cases h
    rw [stateOf?_of_find? hfind, hpending]
    exact nofun
  | @cancel _ id operation _ hfind hpending =>
    refine accounted.replace rfl rfl ?_ hreport rfl rfl ?_ (accounted.keyed id operation hfind)
      fun h => by cases h
    · exact (List.append_nil _).symm
    · rw [stateOf?_of_find? hfind, hpending]
      exact nofun

end Step

/-- Every request keeps the timelock accounted for. -/
theorem Accounted.step {minDelay : Seconds} {timelock : Timelock}
    {past : List (Moment Timelock TimelockRequest)} (accounted : Accounted minDelay timelock past)
    (request : TimelockRequest) :
    Accounted minDelay (timelock.after request)
      (past ++ [⟨timelock, request, timelock.after request⟩]) := by
  rcases timelock.refused_or_granted request with ⟨hreport, hafter⟩ | ⟨report, hreport, granted⟩
  · rw [hafter]
    exact accounted.idle rfl rfl rfl fun given h => nomatch hreport.symm.trans h
  · exact accounted.granted granted hreport

/-- A timelock is accounted for whatever was asked of it. -/
theorem accounted_run (address : Address) (minDelay : Seconds) (requests : List TimelockRequest) :
    Accounted minDelay ((create address minDelay).run requests)
      (course after (create address minDelay) requests) :=
  course_induction (accounted_create address minDelay)
    (fun _ _ request accounted => accounted.step request) requests

/-! ## A timelock in use -/

/-- What was executed stays as it is, whatever else is asked. -/
theorem find?_run_of_done {timelock : Timelock} {id : Digest} {operation : Operation}
    (hfind : timelock.operations.find? id = some operation) (hdone : operation.state = .done)
    (requests : List TimelockRequest) :
    (timelock.run requests).operations.find? id = some operation := by
  induction requests generalizing timelock with
  | nil => exact hfind
  | cons request rest ih => exact ih (find?_after_of_done hfind hdone request)

/-- When a batch is executed, the delay is over since it was last scheduled. -/
theorem Accounted.delayed {minDelay : Seconds} {timelock : Timelock}
    {past : List (Moment Timelock TimelockRequest)} (accounted : Accounted minDelay timelock past)
    {request : TimelockRequest} {id : Digest}
    (hreport : timelock.report? request = some (.executed id)) :
    ∃ earlier scheduling since, past = earlier ++ scheduling :: since ∧
      scheduling.report? = some (.scheduled id) ∧
      (∀ moment ∈ since, moment.report? ≠ some (.scheduled id)) ∧
      min (scheduling.before.now.toNat + minDelay.toNat) (UInt64.size - 1)
        ≤ timelock.now.toNat := by
  obtain ⟨_, _, operation, -, -, hfind, hpending, hready, -⟩ := executing_of_report? hreport
  obtain ⟨earlier, scheduling, since, _, hpast, -, hscheduled, hreadyAt, hsince⟩ :=
    accounted.waiting id operation hfind hpending
  refine ⟨earlier, scheduling, since, hpast, hscheduled, fun moment hmem h => ?_, ?_⟩
  · exact hsince moment hmem _ h rfl
  · rw [← toNat_later, ← hreadyAt]
    exact UInt64.le_iff_toNat_le.mp hready

/-- Whatever is asked of a new timelock, the state of a batch changes only to one that may follow,
and what was executed stays as it is; every batch stands under its own identifier; the instructions
executed are those of the batches that are done, each once and in the order of their execution; a
batch is executed only when the delay is over since it was last scheduled, up to the last moment of
the clock; nothing is granted to an account without the role for it; and what is refused changes
nothing. -/
theorem lifecycle (address : Address) (minDelay : Seconds) (requests : List TimelockRequest) :
    let past := course after (create address minDelay) requests
    let timelock := (create address minDelay).run requests
    (∀ moment ∈ past, ∀ id,
      moment.after.stateOf? id = moment.before.stateOf? id ∨
        ∃ state, moment.after.stateOf? id = some state ∧
          OperationState.Follows (moment.before.stateOf? id) state) ∧
    (∀ moment ∈ past, ∀ id operation, moment.after.operations.find? id = some operation →
      operation.state = .done → timelock.operations.find? id = some operation) ∧
    (∀ id operation, timelock.operations.find? id = some operation →
      operationId operation.batch = .ok id) ∧
    ((executions past).Nodup ∧
      (∀ id, id ∈ executions past ↔ timelock.stateOf? id = some .done) ∧
      timelock.executed = (executions past).flatMap timelock.instructionsOf) ∧
    (∀ earlier execution rest id, past = earlier ++ execution :: rest →
      execution.report? = some (.executed id) →
      ∃ before scheduling since, earlier = before ++ scheduling :: since ∧
        scheduling.report? = some (.scheduled id) ∧
        (∀ moment ∈ since, moment.report? ≠ some (.scheduled id)) ∧
        min (scheduling.before.now.toNat + minDelay.toNat) (UInt64.size - 1)
          ≤ execution.before.now.toNat) ∧
    (∀ moment ∈ past, ∀ report role caller, moment.report? = some report →
      moment.event.needs? = some (role, caller) →
      moment.before.roles.holds role caller = true) ∧
    (∀ moment ∈ past, ∀ error, moment.before.answer moment.event = .error error →
      moment.after = moment.before) := by
  intro past timelock
  have accounted : Accounted minDelay timelock past := accounted_run address minDelay requests
  have hafter : ∀ moment ∈ past, moment.after = moment.before.after moment.event :=
    fun moment hmem => by
      obtain ⟨-, -, -, -, h⟩ := of_mem_course hmem
      exact h
  refine ⟨fun moment hmem id => ?_, fun moment hmem id operation hfind hdone => ?_,
    accounted.keyed, ⟨accounted.once, fun id => (accounted.done id).symm, accounted.account⟩,
    fun earlier execution rest id hpast hreport => ?_,
    fun moment hmem report role caller hreport hneeds => ?_, fun moment hmem error herror => ?_⟩
  · rw [hafter moment hmem]
    exact moment.before.stateOf?_after moment.event id
  · -- the rest of the requests leaves alone what is done
    obtain ⟨first, rest, hrequests, hbefore, hmoment⟩ := of_mem_course hmem
    have hrun : timelock = moment.after.run rest := by
      rw [hmoment, hbefore]
      show (create address minDelay).run requests = _
      rw [hrequests, run, List.foldl_append]
      rfl
    rw [hrun]
    exact find?_run_of_done hfind hdone rest
  · -- the timelock that executes is accounted for by what came before
    obtain ⟨first, _, -, rfl, hbefore, -⟩ := course_eq_append_cons hpast
    refine Accounted.delayed ?_ hreport
    rw [hbefore]
    exact accounted_run address minDelay first
  · obtain ⟨_, -, granted⟩ := granted_of_report? hreport
    exact granted.holds hneeds
  · rw [hafter moment hmem, (after_of_refused herror).1]

end Timelock

end GovernanceRelay
