import GovernanceRelay.Proofs.Authority
import GovernanceRelay.Proofs.Forwarding.Effect

/-!
# What is executed was reviewed

While the operator alone may schedule and execute, and does so only by forwarding, whatever the
timelock of a home chain executes is a batch that passed the review twice: when it was scheduled and
when it was executed, each time by the governance of that moment
(`HomeChain.executed_only_reviewed`). A report of the timelock is traced to the event that led to it
(`HomeChain.forwarded_of_report?`), and what waits is traced to the moment at which it was scheduled
in the course of the home chain (`HomeChain.scheduled_of_waiting`).
-/

set_option autoImplicit false

namespace GovernanceRelay

namespace ForwardMode

/-- The role that the timelock asks for. -/
def role : ForwardMode → Role
  | schedule => .proposer
  | execute => .executor

theorem request_injective {mode other : ForwardMode} {operator : Address} {batch more : Batch}
    (h : mode.request operator batch = other.request operator more) :
    mode = other ∧ batch = more := by
  cases mode <;> cases other <;> cases h <;> exact ⟨rfl, rfl⟩

end ForwardMode

/-- The batch that is forwarded at an event. -/
def HomeEvent.forwarded? : HomeEvent → Option Batch
  | forward batch _ _ => some batch
  | _ => none

/-- The instructions that the timelock executed at a moment. -/
def Moment.appended (moment : Moment HomeChain HomeEvent) : List Instruction :=
  moment.after.timelock.executed.drop moment.before.timelock.executed.length

namespace Timelock

/-- Whoever is reported to have a batch scheduled or executed holds the role for it. -/
theorem holds_of_mode_report {timelock : Timelock} {request : TimelockRequest} {mode : ForwardMode}
    {id : Digest} (h : timelock.report? request = some (mode.report id)) :
    ∃ caller batch, request = mode.request caller batch ∧
      timelock.roles.holds mode.role caller = true ∧ operationId batch = .ok id := by
  obtain ⟨changed, -, granted⟩ := granted_of_report? h
  cases mode with
  | schedule =>
    cases granted with
    | schedule hholds hid _ => exact ⟨_, _, rfl, hholds, hid⟩
  | execute =>
    cases granted with
    | execute hholds hid _ _ _ => exact ⟨_, _, rfl, hholds, hid⟩

/-- Nothing is executed unless it is reported. -/
theorem executed_after_of_not_reported {timelock : Timelock} {request : TimelockRequest}
    (h : ∀ id, timelock.report? request ≠ some (.executed id)) :
    (timelock.after request).executed = timelock.executed := by
  rcases timelock.refused_or_granted request with ⟨-, hafter⟩ | ⟨report, hreport, granted⟩
  · rw [hafter]
  · generalize timelock.after request = changed at granted
    cases granted with
    | execute => cases h _ hreport
    | _ => rfl

end Timelock

namespace HomeChain

section Moments

variable {home : HomeChain} {event : HomeEvent} {moment : Moment HomeChain HomeEvent}

/-- If only the operator holds the role for it and does not ask for it directly, the timelock
schedules or executes a batch only because the operator forwards it and it passes the review. -/
theorem forwarded_of_report? {mode : ForwardMode} {id : Digest}
    (exclusive : ∀ account, home.timelock.roles.holds mode.role account = true →
      account = home.operator)
    (indirect : ∀ batch, event ≠ .ask (mode.request home.operator batch))
    (h : home.report? event = some (mode.report id)) :
    ∃ batch chain, event = .forward batch chain mode ∧
      home.governance.review batch chain = .ok () ∧
      home.request? event = some (mode.request home.operator batch) ∧
      operationId batch = .ok id := by
  rw [report?_eq_bind] at h
  obtain ⟨request, hrequest, hreport⟩ := Option.bind_eq_some_iff.mp h
  obtain ⟨caller, batch, rfl, hholds, hid⟩ := Timelock.holds_of_mode_report hreport
  obtain rfl := exclusive caller hholds
  cases event with
  | govern request => cases hrequest
  | ask request =>
    cases hrequest
    exact absurd rfl (indirect batch)
  | forward given chain taken =>
    cases hreview : home.governance.review given chain with
    | error offence => simp [request?, hreview] at hrequest
    | ok _ =>
      have hsame : taken.request home.operator given = mode.request home.operator batch := by
        simpa [request?, hreview] using hrequest
      obtain ⟨rfl, rfl⟩ := ForwardMode.request_injective hsame
      exact ⟨given, chain, rfl, hreview, hrequest, hid⟩

/-- Something is reported exactly if the timelock is asked and reports it. -/
theorem report?_eq_some_iff (report : TimelockReport) :
    moment.before.report? moment.event = some report ↔
      ∃ asked, timelockMoment? moment = some asked ∧ asked.report? = some report := by
  simp only [report?_eq_bind, timelockMoment?, Option.bind_eq_some_iff, Option.map_eq_some_iff]
  constructor
  · rintro ⟨request, hrequest, hreport⟩
    exact ⟨_, ⟨request, hrequest, rfl⟩, hreport⟩
  · rintro ⟨_, ⟨request, hrequest, rfl⟩, hreport⟩
    exact ⟨request, hrequest, hreport⟩

/-- What is reported to be executed waited, and it is done afterwards. -/
theorem completed_of_report? {id : Digest} (h : home.report? event = some (.executed id)) :
    ∃ operation, home.timelock.operations.find? id = some operation ∧
      operation.state = .pending ∧
      (home.step event).timelock = home.timelock.complete id operation := by
  rw [report?_eq_bind] at h
  obtain ⟨request, hrequest, hreport⟩ := Option.bind_eq_some_iff.mp h
  obtain ⟨_, _, operation, -, -, hfind, hpending, -, hafter⟩ :=
    Timelock.executing_of_report? hreport
  refine ⟨operation, hfind, hpending, ?_⟩
  rw [timelock_step, hrequest, Option.map_some, Option.getD_some, hafter]

/-- Nothing is executed at an event unless it is reported. -/
theorem executed_step_of_not_reported (h : ∀ id, home.report? event ≠ some (.executed id)) :
    (home.step event).timelock.executed = home.timelock.executed := by
  rw [timelock_step]
  cases hrequest : home.request? event with
  | none => rfl
  | some request =>
    refine Timelock.executed_after_of_not_reported fun id hreport => h id ?_
    rw [report?_eq_bind, hrequest, Option.bind_some, hreport]

/-- What is executed at an event comes after what had been executed. -/
theorem executed_step (home : HomeChain) (event : HomeEvent) :
    (home.step event).timelock.executed =
      home.timelock.executed ++ Moment.appended ⟨home, event, home.step event⟩ := by
  refine (List.prefix_iff_eq_append.mp ?_).symm
  by_cases h : ∃ id, home.report? event = some (.executed id)
  · obtain ⟨id, hreport⟩ := h
    obtain ⟨operation, -, -, hafter⟩ := completed_of_report? hreport
    rw [hafter]
    exact List.prefix_append _ _
  · refine ⟨[], ?_⟩
    rw [List.append_nil, executed_step_of_not_reported (not_exists.mp h)]

theorem executed_foldl (home : HomeChain) (events : List HomeEvent) :
    (events.foldl step home).timelock.executed =
      home.timelock.executed ++ (course step home events).flatMap Moment.appended := by
  refine course_induction
    (P := fun now past => now.timelock.executed =
      home.timelock.executed ++ past.flatMap Moment.appended)
    ?_ (fun now past event ih => ?_) events
  · exact (List.append_nil _).symm
  · rw [executed_step, ih, List.flatMap_append, List.flatMap_singleton, List.append_assoc]

end Moments

/-- What waits was scheduled at a moment in the course of the home chain, and nothing became of it
since. -/
theorem scheduled_of_waiting {minDelay : Seconds} {past : List (Moment HomeChain HomeEvent)}
    {id : Digest} {operation : Operation}
    (waiting : Timelock.Waiting minDelay (past.filterMap timelockMoment?) id operation) :
    ∃ first scheduling between caller, past = first ++ scheduling :: between ∧
      scheduling.before.request? scheduling.event = some (.schedule caller operation.batch) ∧
      scheduling.before.report? scheduling.event = some (.scheduled id) ∧
      ∀ other ∈ between, ∀ report, other.before.report? other.event = some report →
        report.id? ≠ some id := by
  obtain ⟨_, asked, since, caller, hsplit, hevent, hreport, -, hsince⟩ := waiting
  obtain ⟨front, back, rfl, -, hback⟩ := List.filterMap_eq_append_iff.mp hsplit
  obtain ⟨silent, scheduling, between, rfl, -, hasked, rfl⟩ := List.filterMap_eq_cons_iff.mp hback
  refine ⟨front ++ silent, scheduling, between, caller, by simp, ?_,
    (report?_eq_some_iff _).mpr ⟨asked, hasked, hreport⟩, fun other hmem report hother => ?_⟩
  · obtain ⟨request, hrequest, rfl⟩ := Option.map_eq_some_iff.mp hasked
    rw [hrequest, ← hevent]
  · obtain ⟨given, hgiven, hreported⟩ := (report?_eq_some_iff _).mp hother
    exact hsince given (List.mem_filterMap.mpr ⟨other, hmem, hgiven⟩) report hreported

/-- In the course of a home chain on which only the operator may schedule and execute, and does so
only by forwarding, a batch is scheduled or executed because it is forwarded and passes the
review. -/
theorem forwarded_of_mem_course {start : HomeChain} {events : List HomeEvent}
    (indirect : ∀ event ∈ events, ∀ mode batch,
      event ≠ .ask (ForwardMode.request start.operator batch mode))
    (exclusive : ∀ moment ∈ course step start events, ∀ mode account,
      moment.before.timelock.roles.holds (ForwardMode.role mode) account = true →
        account = start.operator)
    {moment : Moment HomeChain HomeEvent} (hmem : moment ∈ course step start events)
    (mode : ForwardMode) {id : Digest}
    (hreport : moment.before.report? moment.event = some (mode.report id)) :
    ∃ batch chain, moment.event = .forward batch chain mode ∧
      moment.before.governance.review batch chain = .ok () ∧
      moment.before.request? moment.event = some (mode.request start.operator batch) ∧
      operationId batch = .ok id ∧ batch ∈ events.filterMap HomeEvent.forwarded? := by
  obtain ⟨before, rest, hevents, hbefore, -⟩ := of_mem_course hmem
  have hevent : moment.event ∈ events := by
    rw [hevents]
    exact List.mem_append_right _ List.mem_cons_self
  have hoperator : moment.before.operator = start.operator := by
    rw [hbefore, operator_foldl]
  have hask := indirect moment.event hevent mode
  have hholds := exclusive moment hmem mode
  rw [← hoperator] at hask hholds ⊢
  obtain ⟨batch, chain, hforward, hreview, hrequest, hid⟩ :=
    forwarded_of_report? hholds hask hreport
  refine ⟨batch, chain, hforward, hreview, hrequest, hid, ?_⟩
  exact List.mem_filterMap.mpr ⟨moment.event, hevent, by rw [hforward]; rfl⟩

/-- While only the operator may schedule and execute, and does so only by forwarding, whatever else
happens on a home chain: the timelock executed what it executed at one moment after the other, and
whenever it executed anything, this was the list of instructions of one batch that was forwarded at
this moment and passed the review of the governance as it was then. The same batch was forwarded
before to be scheduled, passed the review of the governance as it was at that moment, and was
scheduled; and nothing became of it in between, so that it was neither withdrawn nor executed. -/
theorem executed_only_reviewed (operator address : Address) (governance : Governance)
    (minDelay : Seconds) (events : List HomeEvent)
    (unambiguous : Unambiguous (events.filterMap HomeEvent.forwarded?))
    (indirect : ∀ event ∈ events, ∀ mode batch,
      event ≠ .ask (ForwardMode.request operator batch mode))
    (exclusive : ∀ moment ∈ course step
        ⟨operator, governance, Timelock.create address minDelay⟩ events,
      ∀ mode account, moment.before.timelock.roles.holds (ForwardMode.role mode) account = true →
        account = operator) :
    let start : HomeChain := ⟨operator, governance, Timelock.create address minDelay⟩
    let past := course step start events
    (events.foldl step start).timelock.executed = past.flatMap Moment.appended ∧
    ∀ earlier moment later, past = earlier ++ moment :: later → moment.appended ≠ [] →
      ∃ batch chain, moment.event = .forward batch chain .execute ∧
        moment.appended = batch.instructions ∧
        moment.before.governance.review batch chain = .ok () ∧
        ∃ first scheduling between scheduledFor id,
          earlier = first ++ scheduling :: between ∧
          scheduling.event = .forward batch scheduledFor .schedule ∧
          scheduling.before.governance.review batch scheduledFor = .ok () ∧
          operationId batch = .ok id ∧
          scheduling.before.report? scheduling.event = some (.scheduled id) ∧
          ∀ other ∈ between, ∀ report, other.before.report? other.event = some report →
            report.id? ≠ some id := by
  intro start past
  refine ⟨executed_foldl start events, fun earlier moment later hpast happended => ?_⟩
  obtain ⟨before, _, -, hearlier, hbefore, hafter⟩ := course_eq_append_cons hpast
  have accounted : Timelock.Accounted minDelay moment.before.timelock
      (earlier.filterMap timelockMoment?) := by
    rw [hbefore, hearlier]
    exact accounted_course operator address governance minDelay before
  -- nothing is executed unless it is reported, and then it waited
  obtain ⟨id, hreport⟩ : ∃ id, moment.before.report? moment.event = some (.executed id) := by
    refine Classical.byContradiction fun hnone => happended ?_
    rw [Moment.appended, hafter, executed_step_of_not_reported (not_exists.mp hnone),
      List.drop_length]
  obtain ⟨operation, hfind, hpending, hcomplete⟩ := completed_of_report? hreport
  obtain ⟨first, scheduling, between, caller, hsplit, hasked, hscheduled, hbetween⟩ :=
    scheduled_of_waiting (accounted.waiting id operation hfind hpending)
  -- both what was scheduled and what is executed was forwarded
  have hmoment : moment ∈ past := by simp [hpast]
  have hscheduling : scheduling ∈ past := by simp [hpast, hsplit]
  obtain ⟨batch, chain, hforward, hreview, -, hid, hbatch⟩ :=
    forwarded_of_mem_course indirect exclusive hmoment .execute hreport
  obtain ⟨stored, scheduledFor, hforwarded, hreviewed, hrequest, hstored, hmem⟩ :=
    forwarded_of_mem_course indirect exclusive hscheduling .schedule hscheduled
  obtain rfl : stored = batch := unambiguous.eq_of_operationId hmem hbatch hstored hid
  have hoperation : operation.batch = stored := by
    cases hrequest.symm.trans hasked
    rfl
  refine ⟨stored, chain, hforward, ?_, hreview, first, scheduling, between, scheduledFor, id,
    hsplit, hforwarded, hreviewed, hid, hscheduled, hbetween⟩
  rw [Moment.appended, hafter, hcomplete, ← hoperation]
  exact List.drop_left

namespace Rehearsal

/-- An account that may only withdraw batches. -/
def guardian : Address := FixedBytes.replicate 9

/-- The batch is scheduled, withdrawn, scheduled anew and executed after the delay. The guardian
tries to schedule it as well. -/
def events : List HomeEvent :=
  [.ask (.setupRole .proposer operator), .ask (.setupRole .executor operator),
    .ask (.setupRole .canceller guardian), .govern allowing, .forward batch 1 .schedule,
    .ask (.cancel guardian (blake3 (batch.instructions.flatMap Instruction.toWire))),
    .ask (.schedule guardian batch), .forward batch 1 .schedule, .ask (.advance 10),
    .forward batch 1 .execute]

/-- The batch is executed once, and it passed the review. -/
theorem executed_scheduled_anew :
    let start : HomeChain :=
      ⟨operator, Governance.create operator, Timelock.create operator 10⟩
    (events.foldl step start).timelock.executed = batch.instructions ∧
    ∀ moment ∈ course step start events, moment.appended ≠ [] →
      ∃ batch chain, moment.event = .forward batch chain .execute ∧
        moment.appended = batch.instructions ∧
        moment.before.governance.review batch chain = .ok () := by
  intro start
  have unambiguous : Unambiguous (events.filterMap HomeEvent.forwarded?) :=
    unambiguous_of_forall_eq batch (by decide)
  have hother : operator ≠ guardian := by decide
  have indirect : ∀ event ∈ events, ∀ mode given,
      event ≠ .ask (ForwardMode.request operator given mode) := by
    rintro _ hmem mode given rfl
    cases mode <;> simp [events, ForwardMode.request, hother] at hmem
  -- the roles are listed at every moment
  have hlisted : ∀ moment ∈ course step start events,
      ∀ entry ∈ moment.before.timelock.roles.assignments,
        entry.1 = .proposer ∨ entry.1 = .executor → entry.2 = operator := by
    decide +kernel
  have exclusive : ∀ moment ∈ course step start events, ∀ mode account,
      moment.before.timelock.roles.holds (ForwardMode.role mode) account = true →
        account = operator := by
    intro moment hmem mode account hholds
    have hentry := (Authority.mem_assignments_iff _ _ _).mpr hholds
    refine hlisted moment hmem _ hentry ?_
    cases mode with
    | schedule => exact .inl rfl
    | execute => exact .inr rfl
  obtain ⟨-, hreviewed⟩ := executed_only_reviewed operator operator (Governance.create operator) 10
    events unambiguous indirect exclusive
  refine ⟨by decide +kernel, fun moment hmem happended => ?_⟩
  obtain ⟨earlier, later, hsplit⟩ := List.append_of_mem hmem
  obtain ⟨given, chain, hforward, hblock, hreview, -⟩ :=
    hreviewed earlier moment later hsplit happended
  exact ⟨given, chain, hforward, hblock, hreview⟩

end Rehearsal

end HomeChain

end GovernanceRelay
