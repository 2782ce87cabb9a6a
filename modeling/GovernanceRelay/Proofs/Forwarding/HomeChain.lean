import GovernanceRelay.Proofs.Governance.Request
import GovernanceRelay.Proofs.Timelock.Lifecycle
import GovernanceRelay.Review

/-!
# The home chain

On a home chain the governance reviews the batches that are to be forwarded, and what passes becomes
a request of the operator to the timelock (`Governance.forward_eq_ok_iff`). All the while the
governance is changed and the timelock is asked by other accounts. Whatever happens, the timelock
meets a sequence of requests (`HomeChain.request?`), so it is accounted for by the course of the
home chain (`HomeChain.accounted_course`).
-/

set_option autoImplicit false

namespace GovernanceRelay

namespace ForwardMode

/-- The request that an approved batch becomes. -/
def request (operator : Address) (batch : Batch) : ForwardMode → TimelockRequest
  | schedule => .schedule operator batch
  | execute => .execute operator batch

/-- What the timelock reports if it grants this request. -/
def report (id : Digest) : ForwardMode → TimelockReport
  | schedule => .scheduled id
  | execute => .executed id

end ForwardMode

namespace Governance

variable (governance : Governance) (operator : Address) (timelock : Timelock) (batch : Batch)
  (chain : ChainId) (mode : ForwardMode)

/-- A batch is forwarded exactly if it passes the review and the timelock grants the request of the
operator. -/
theorem forward_eq_ok_iff (id : Digest) (changed : Timelock) :
    governance.forward operator timelock batch chain mode = .ok (id, changed) ↔
      governance.review batch chain = .ok () ∧
        timelock.answer (mode.request operator batch) = .ok (mode.report id, changed) := by
  unfold forward review
  cases governance.offence? batch chain with
  | some offence => simp
  | none =>
    cases mode with
    | schedule =>
      simp only [ForwardMode.request, ForwardMode.report, Timelock.answer]
      cases timelock.schedule operator batch <;> simp [Except.map, Prod.ext_iff]
    | execute =>
      simp only [ForwardMode.request, ForwardMode.report, Timelock.answer]
      cases timelock.execute operator batch <;> simp [Except.map, Prod.ext_iff]

/-- Forwarding fails with the objection of the review, or else with the refusal of the timelock. -/
theorem forward_eq_error_iff (error : ForwardError) :
    governance.forward operator timelock batch chain mode = .error error ↔
      (∃ offence, governance.review batch chain = .error offence ∧ error = .offence offence) ∨
        (governance.review batch chain = .ok () ∧
          ∃ refusal, timelock.answer (mode.request operator batch) = .error refusal ∧
            error = .refused refusal) := by
  unfold forward review
  cases governance.offence? batch chain with
  | some offence => simp [eq_comm]
  | none =>
    cases mode with
    | schedule =>
      simp only [ForwardMode.request, Timelock.answer]
      cases timelock.schedule operator batch <;> simp [Except.map, eq_comm]
    | execute =>
      simp only [ForwardMode.request, Timelock.answer]
      cases timelock.execute operator batch <;> simp [Except.map, eq_comm]

theorem exists_forward_iff :
    (∃ done, governance.forward operator timelock batch chain mode = .ok done) ↔
      governance.review batch chain = .ok () ∧
        ∃ done, timelock.answer (mode.request operator batch) = .ok done := by
  constructor
  · rintro ⟨⟨id, changed⟩, hok⟩
    obtain ⟨hreview, hanswer⟩ := (governance.forward_eq_ok_iff _ _ _ _ _ _ _).mp hok
    exact ⟨hreview, _, hanswer⟩
  · rintro ⟨hreview, done, hanswer⟩
    cases h : governance.forward operator timelock batch chain mode with
    | ok forwarded => exact ⟨forwarded, rfl⟩
    | error error =>
      rcases (governance.forward_eq_error_iff _ _ _ _ _ _).mp h with
        ⟨offence, hoffence, -⟩ | ⟨-, refusal, hrefusal, -⟩
      · cases hreview.symm.trans hoffence
      · cases hanswer.symm.trans hrefusal

end Governance

/-- A home chain, on which an operator forwards batches. -/
structure HomeChain where
  /-- The account that forwards. -/
  operator : Address
  /-- The governance that reviews. -/
  governance : Governance
  /-- The timelock that batches are forwarded to. -/
  timelock : Timelock

/-- What happens on a home chain. -/
inductive HomeEvent where
  /-- Somebody asks something of the governance. -/
  | govern (request : GovernanceRequest)
  /-- A batch is forwarded. -/
  | forward (batch : Batch) (chain : ChainId) (mode : ForwardMode)
  /-- Somebody asks something of the timelock, or time passes. -/
  | ask (request : TimelockRequest)

namespace HomeChain

/-- The home chain after an event. -/
def step (home : HomeChain) : HomeEvent → HomeChain
  | .govern request => { home with governance := home.governance.after request }
  | .forward batch chain mode =>
    match home.governance.forward home.operator home.timelock batch chain mode with
    | .ok (_, changed) => { home with timelock := changed }
    | .error _ => home
  | .ask request => { home with timelock := home.timelock.after request }

/-- What the timelock reports at an event, if it grants a request. -/
def report? (home : HomeChain) : HomeEvent → Option TimelockReport
  | .govern _ => none
  | .forward batch chain mode =>
    match home.governance.forward home.operator home.timelock batch chain mode with
    | .ok (id, _) => some (mode.report id)
    | .error _ => none
  | .ask request => home.timelock.report? request

/-- The request to the timelock that an event leads to. -/
def request? (home : HomeChain) : HomeEvent → Option TimelockRequest
  | .govern _ => none
  | .forward batch chain mode =>
    match home.governance.review batch chain with
    | .ok _ => some (mode.request home.operator batch)
    | .error _ => none
  | .ask request => some request

/-! ## One event -/

section Event

variable (home : HomeChain)

@[simp] theorem operator_step (event : HomeEvent) : (home.step event).operator = home.operator := by
  cases event with
  | govern request => rfl
  | forward batch chain mode =>
    rw [step]
    split <;> rfl
  | ask request => rfl

/-- At an event, the timelock answers the request that the event leads to and nothing else. -/
theorem timelock_step_and_report? (event : HomeEvent) :
    (home.step event).timelock =
        ((home.request? event).map home.timelock.after).getD home.timelock ∧
      home.report? event = (home.request? event).bind home.timelock.report? := by
  cases event with
  | govern request => exact ⟨rfl, rfl⟩
  | ask request => exact ⟨rfl, rfl⟩
  | forward batch chain mode =>
    rw [step, report?, request?]
    cases hforward : home.governance.forward home.operator home.timelock batch chain mode with
    | ok done =>
      obtain ⟨hreview, hanswer⟩ :=
        (Governance.forward_eq_ok_iff _ _ _ _ _ _ done.1 done.2).mp hforward
      simp [hreview, Timelock.after_of_answer hanswer]
    | error error =>
      rcases (Governance.forward_eq_error_iff _ _ _ _ _ _ error).mp hforward with
        ⟨offence, hreview, -⟩ | ⟨hreview, refusal, hanswer, -⟩
      · simp [hreview]
      · simp [hreview, Timelock.after_of_refused hanswer]

theorem timelock_step (event : HomeEvent) :
    (home.step event).timelock =
      ((home.request? event).map home.timelock.after).getD home.timelock :=
  (home.timelock_step_and_report? event).1

theorem report?_eq_bind (event : HomeEvent) :
    home.report? event = (home.request? event).bind home.timelock.report? :=
  (home.timelock_step_and_report? event).2

variable {home} {batch : Batch} {chain : ChainId} {mode : ForwardMode}

theorem step_of_forward_ok {id : Digest} {changed : Timelock}
    (h : home.governance.forward home.operator home.timelock batch chain mode =
      .ok (id, changed)) :
    home.step (.forward batch chain mode) = { home with timelock := changed } := by
  simp [step, h]

theorem step_of_forward_error {error : ForwardError}
    (h : home.governance.forward home.operator home.timelock batch chain mode = .error error) :
    home.step (.forward batch chain mode) = home := by
  simp [step, h]

end Event

/-! ## The course of a home chain and that of its timelock -/

/-- What a moment is for the timelock, if it is asked anything. -/
def timelockMoment? (moment : Moment HomeChain HomeEvent) :
    Option (Moment Timelock TimelockRequest) :=
  (moment.before.request? moment.event).map fun request =>
    ⟨moment.before.timelock, request, moment.after.timelock⟩

/-- The timelock is accounted for by what it was asked in the course of the home chain. -/
theorem accounted_course (operator address : Address) (governance : Governance)
    (minDelay : Seconds) (events : List HomeEvent) :
    let start : HomeChain := ⟨operator, governance, Timelock.create address minDelay⟩
    Timelock.Accounted minDelay (events.foldl step start).timelock
      ((course step start events).filterMap timelockMoment?) := by
  intro start
  refine course_induction
    (P := fun home past => Timelock.Accounted minDelay home.timelock
      (past.filterMap timelockMoment?))
    ?_ (fun home past event accounted => ?_) events
  · exact Timelock.accounted_create address minDelay
  · rw [List.filterMap_append]
    cases hrequest : home.request? event with
    | none => simpa [timelock_step, timelockMoment?, hrequest] using accounted
    | some request =>
      simpa [timelock_step, timelockMoment?, hrequest] using accounted.step request

theorem operator_foldl (home : HomeChain) (events : List HomeEvent) :
    (events.foldl step home).operator = home.operator := by
  induction events generalizing home with
  | nil => rfl
  | cons event rest ih => exact (ih (home.step event)).trans (home.operator_step event)

end HomeChain

end GovernanceRelay
