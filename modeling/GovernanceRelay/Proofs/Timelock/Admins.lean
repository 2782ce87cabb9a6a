import GovernanceRelay.Proofs.Timelock.Stepwise

/-!
# Only admins change roles

The roles of a timelock in use are changed by single requests and by steps that are applied one
after another, and these come down to single requests as well (`Timelock.perform_eq_run`). A role is
changed only for a caller who is an admin immediately before (`Timelock.change_after`), so this
holds of every change within a series of steps that changes who is an admin, too. Where there is no
admin, nobody changes a role, and so there never is an admin again
(`Timelock.authority_flows_from_admins`). An only admin who hands the admin role over gets there at
once (`Timelock.vacant_after_handover`).
-/

set_option autoImplicit false

namespace GovernanceRelay

/-- Every request but the one that gives out a role without asking, which comes before a timelock is
in use. -/
def TimelockRequest.Ordinary : TimelockRequest → Prop
  | setupRole _ _ => False
  | _ => True

/-- What is done with a timelock in use. -/
inductive TimelockAction where
  /-- Make a request. -/
  | ask (request : TimelockRequest) (ordinary : request.Ordinary)
  /-- Apply steps one after another on behalf of a caller. -/
  | applyInOrder (caller : Address) (steps : List RoleStep)

/-- On whose behalf something is done; time passes without anybody. -/
def TimelockAction.caller? : TimelockAction → Option Address
  | ask request _ => request.needs?.map Prod.snd
  | applyInOrder caller _ => some caller

namespace Timelock

/-- The timelock after something is done. -/
def perform (timelock : Timelock) : TimelockAction → Timelock
  | .ask request _ => timelock.after request
  | .applyInOrder caller steps => (timelock.applyInOrder caller steps).2

/-- The timelock after a number of things are done. -/
def performAll (timelock : Timelock) (actions : List TimelockAction) : Timelock :=
  actions.foldl perform timelock

/-- The requests by which steps are applied one after another: one for each step, up to the first
that is refused. -/
def requestsFrom (caller : Address) (timelock : Timelock) :
    List RoleStep → List TimelockRequest
  | [] => []
  | step :: rest =>
    .changeRole caller step ::
      match timelock.applyStep caller step with
      | .error _ => []
      | .ok changed => requestsFrom caller changed rest

/-- The single requests that something comes down to. -/
def calls (timelock : Timelock) : TimelockAction → List TimelockRequest
  | .ask request _ => [request]
  | .applyInOrder caller steps => requestsFrom caller timelock steps

/-! ## Single requests -/

section Requests

variable {timelock : Timelock} {request : TimelockRequest}

/-- If an ordinary request changes a role, it asks for this change, and its caller is an admin
before. -/
theorem change_after (ordinary : request.Ordinary)
    (hchange : (timelock.after request).roles ≠ timelock.roles) :
    ∃ caller step, request = .changeRole caller step ∧
      timelock.roles.holds .admin caller = true ∧
      (timelock.after request).roles = timelock.roles.apply step := by
  rcases timelock.refused_or_granted request with ⟨-, hafter⟩ | ⟨report, -, granted⟩
  · rw [hafter] at hchange
    exact absurd rfl hchange
  · generalize timelock.after request = changed at granted hchange ⊢
    cases granted with
    | setupRole => cases ordinary
    | changeRole hadmin => exact ⟨_, _, rfl, hadmin, rfl⟩
    -- none of the others is about roles
    | advance => exact absurd rfl hchange
    | schedule => exact absurd rfl hchange
    | execute => exact absurd rfl hchange
    | cancel => exact absurd rfl hchange

/-- Where there is no admin, an ordinary request leaves the roles as they are. -/
theorem roles_after_of_vacant (hvacant : timelock.roles.holderCount .admin = 0)
    (ordinary : request.Ordinary) : (timelock.after request).roles = timelock.roles := by
  by_contra hchange
  obtain ⟨caller, -, -, hadmin, -⟩ := change_after ordinary hchange
  exact (timelock.roles.holderCount_eq_zero_iff .admin).mp hvacant caller hadmin

theorem roles_run_of_vacant (hvacant : timelock.roles.holderCount .admin = 0)
    {requests : List TimelockRequest} (ordinary : ∀ request ∈ requests, request.Ordinary) :
    (timelock.run requests).roles = timelock.roles := by
  induction requests generalizing timelock with
  | nil => rfl
  | cons request rest ih =>
    obtain ⟨hfirst, hrest⟩ := List.forall_mem_cons.mp ordinary
    have hsame := roles_after_of_vacant hvacant hfirst
    have hlater := ih (hsame.symm ▸ hvacant) hrest
    exact hlater.trans hsame

end Requests

/-! ## Steps one after another -/

section Steps

variable {timelock : Timelock} {caller : Address} {step : RoleStep}

theorem after_changeRole_of_ok {changed : Timelock}
    (h : timelock.applyStep caller step = .ok changed) :
    timelock.after (.changeRole caller step) = changed := by
  rw [after, answer, h]
  rfl

theorem after_changeRole_of_error {error : TimelockError}
    (h : timelock.applyStep caller step = .error error) :
    timelock.after (.changeRole caller step) = timelock := by
  rw [after, answer, h]
  rfl

/-- To apply steps one after another is to make the requests for them. -/
theorem applyFrom_eq_run (timelock : Timelock) (caller : Address) (applied total : Nat)
    (steps : List RoleStep) :
    (applyFrom caller applied total timelock steps).2 =
      timelock.run (requestsFrom caller timelock steps) := by
  induction steps generalizing timelock applied with
  | nil => rfl
  | cons step rest ih =>
    rw [applyFrom, requestsFrom, run, List.foldl_cons, ← run]
    cases hstep : timelock.applyStep caller step with
    | error error =>
      rw [after_changeRole_of_error hstep]
      rfl
    | ok changed =>
      rw [after_changeRole_of_ok hstep]
      exact ih changed (applied + 1)

/-- Steps are requested one by one on behalf of the caller. -/
theorem changeRole_of_mem_requestsFrom {steps : List RoleStep} {request : TimelockRequest}
    (hmem : request ∈ requestsFrom caller timelock steps) :
    ∃ step ∈ steps, request = .changeRole caller step := by
  induction steps generalizing timelock with
  | nil => cases hmem
  | cons step rest ih =>
    rw [requestsFrom] at hmem
    rcases List.mem_cons.mp hmem with rfl | hlater
    · exact ⟨step, List.mem_cons_self, rfl⟩
    · cases hstep : timelock.applyStep caller step with
      | error error =>
        rw [hstep] at hlater
        cases hlater
      | ok changed =>
        rw [hstep] at hlater
        obtain ⟨later, hmem, heq⟩ := ih hlater
        exact ⟨later, List.mem_cons_of_mem _ hmem, heq⟩

/-- Where there is no admin, no step is applied for anybody. -/
theorem applyStep_of_vacant (hvacant : timelock.roles.holderCount .admin = 0) (caller : Address)
    (step : RoleStep) : timelock.applyStep caller step = .error (.missingRole caller .admin) := by
  have hlacks := (timelock.roles.holderCount_eq_zero_iff .admin).mp hvacant caller
  rw [applyStep, missing?, if_neg hlacks]

theorem applyInOrder_of_vacant (hvacant : timelock.roles.holderCount .admin = 0)
    (caller : Address) {steps : List RoleStep} (hsteps : steps ≠ []) :
    timelock.applyInOrder caller steps =
      (.error (.interrupted 0 steps.length (.missingRole caller .admin)), timelock) := by
  obtain ⟨step, rest, rfl⟩ := List.exists_cons_of_ne_nil hsteps
  rw [applyInOrder, applyFrom, applyStep_of_vacant hvacant]

end Steps

/-! ## A timelock in use -/

section Actions

variable {timelock : Timelock}

/-- What is done comes down to single requests. -/
theorem perform_eq_run (timelock : Timelock) (action : TimelockAction) :
    timelock.perform action = timelock.run (timelock.calls action) := by
  cases action with
  | ask request ordinary => rfl
  | applyInOrder caller steps => exact applyFrom_eq_run timelock caller 0 steps.length steps

theorem ordinary_of_mem_calls {action : TimelockAction} {request : TimelockRequest}
    (hmem : request ∈ timelock.calls action) : request.Ordinary := by
  cases action with
  | ask single ordinary =>
    rw [List.mem_singleton.mp hmem]
    exact ordinary
  | applyInOrder caller steps =>
    obtain ⟨step, -, rfl⟩ := changeRole_of_mem_requestsFrom hmem
    trivial

/-- Roles are changed for the caller on whose behalf something is done. -/
theorem caller?_of_mem_calls {action : TimelockAction} {caller : Address} {step : RoleStep}
    (hmem : .changeRole caller step ∈ timelock.calls action) : action.caller? = some caller := by
  cases action with
  | ask single ordinary =>
    cases List.mem_singleton.mp hmem
    rfl
  | applyInOrder other steps =>
    obtain ⟨_, -, heq⟩ := changeRole_of_mem_requestsFrom hmem
    cases heq
    rfl

/-- Where there is no admin, the roles stay as they are, whatever is done. -/
theorem roles_performAll_of_vacant (hvacant : timelock.roles.holderCount .admin = 0)
    (actions : List TimelockAction) : (timelock.performAll actions).roles = timelock.roles := by
  induction actions generalizing timelock with
  | nil => rfl
  | cons action rest ih =>
    have hsame : (timelock.perform action).roles = timelock.roles := by
      rw [perform_eq_run]
      exact roles_run_of_vacant hvacant fun _ hmem => ordinary_of_mem_calls hmem
    have hlater := ih (hsame.symm ▸ hvacant)
    exact hlater.trans hsame

/-- An only admin who hands the admin role over leaves the timelock without an admin, whoever is to
have the role. -/
theorem vacant_after_handover {caller : Address}
    (alone : timelock.roles.holders .admin = [caller]) (new : Address) {roles : List Role}
    (hadmin : Role.admin ∈ roles) :
    (timelock.perform
      (.applyInOrder caller (Handover.plan caller new roles))).roles.holderCount .admin = 0 := by
  have hmem := timelock.roles.holds_iff_of_holders_eq alone
  have hlost : ∀ account,
      ¬ (timelock.roles.revoke .admin caller).holds .admin account = true := by
    intro account
    simp [Authority.holds_revoke, hmem]
  obtain ⟨step, rest, hplan⟩ := Handover.plan_of_admin_mem caller new hadmin
  rw [perform, hplan, applyInOrder,
    applyFrom_cons_of_holds _ _ _ _ ((hmem caller).mpr rfl)]
  have hlacks : (timelock.roles.apply (.revoke .admin caller)).holds .admin caller = false :=
    Bool.eq_false_iff.mpr (hlost caller)
  rw [applyFrom_cons_of_lacks _ _ _ _ hlacks]
  exact (Authority.holderCount_eq_zero_iff _ _).mpr hlost

end Actions

/-- Whatever is done with a timelock in use comes down to single requests, and if a role is changed
in the course of them, this is asked for by a caller who is an admin immediately before, on whose
behalf the whole was done. A timelock without an admin keeps its roles for ever, refuses everybody
who wants to change them for not being an admin, and applies not one of any steps. And this is what
becomes of a timelock whose only admin hands the admin role over. -/
theorem authority_flows_from_admins (timelock : Timelock) (actions : List TimelockAction) :
    (∀ moment ∈ course perform timelock actions,
      moment.after = moment.before.run (moment.before.calls moment.event) ∧
      ∀ call ∈ course after moment.before (moment.before.calls moment.event),
        call.after.roles ≠ call.before.roles →
          ∃ caller step, call.event = .changeRole caller step ∧
            moment.event.caller? = some caller ∧
            call.before.roles.holds .admin caller = true ∧
            call.after.roles = call.before.roles.apply step) ∧
    (timelock.roles.holderCount .admin = 0 →
      (∀ moment ∈ course perform timelock actions, moment.after.roles = timelock.roles) ∧
      (∀ caller step, (timelock.performAll actions).applyStep caller step =
        .error (.missingRole caller .admin)) ∧
      ∀ caller steps, steps ≠ [] → (timelock.performAll actions).applyInOrder caller steps =
        (.error (.interrupted 0 steps.length (.missingRole caller .admin)),
          timelock.performAll actions)) ∧
    ∀ caller new roles, timelock.roles.holders .admin = [caller] → Role.admin ∈ roles →
      (timelock.perform
        (.applyInOrder caller (Handover.plan caller new roles))).roles.holderCount .admin = 0 := by
  refine ⟨?changes, ?vacant, fun caller new roles alone => vacant_after_handover alone new⟩
  case changes =>
    intro moment hmoment
    refine ⟨(after_of_mem_course hmoment).trans (perform_eq_run _ _), ?_⟩
    intro call hcall hchange
    have hmem := event_mem_of_mem_course hcall
    rw [after_of_mem_course hcall] at hchange ⊢
    obtain ⟨caller, step, hevent, hadmin, hroles⟩ :=
      change_after (ordinary_of_mem_calls hmem) hchange
    rw [hevent] at hmem
    exact ⟨caller, step, hevent, caller?_of_mem_calls hmem, hadmin, hroles⟩
  case vacant =>
    intro hvacant
    have hend : (timelock.performAll actions).roles.holderCount .admin = 0 := by
      rw [roles_performAll_of_vacant hvacant]
      exact hvacant
    refine ⟨?_, fun caller step => applyStep_of_vacant hend caller step,
      fun caller steps hsteps => applyInOrder_of_vacant hend caller hsteps⟩
    intro moment hmoment
    obtain ⟨earlier, _, -, hbefore, hafter⟩ := of_mem_course hmoment
    -- the moment is reached by what was done before and by what is done at it
    have hreached : moment.after = timelock.performAll (earlier ++ [moment.event]) := by
      rw [performAll, List.foldl_append, hafter, hbefore]
      rfl
    rw [hreached, roles_performAll_of_vacant hvacant]

end Timelock

end GovernanceRelay
