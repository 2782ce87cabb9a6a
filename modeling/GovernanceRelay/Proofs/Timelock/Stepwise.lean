import Mathlib.Data.Nat.Find
import GovernanceRelay.Proofs.Authority
import GovernanceRelay.Proofs.Timelock.Granted

/-!
# Steps on a timelock, one after another

A timelock asks before every step whether the caller is an admin, and the steps before may have
changed the answer. As long as the caller is one, the timelock goes through the same role tables that
the steps lead to from its own (`Timelock.applyFrom_append`). So it stops exactly at the first step
that meets a table in which the caller is no admin, and keeps that table
(`Timelock.stops_where_authority_ends`). An admin who hands the admin role over is stopped after the
first step of the handover, whoever is to have the role.
-/

set_option autoImplicit false

namespace GovernanceRelay

/-- A handover of the admin role takes it from the old account first, and there is more to do. -/
theorem Handover.plan_of_admin_mem (old new : Address) {roles : List Role}
    (hadmin : Role.admin ∈ roles) :
    ∃ step rest, plan old new roles = .revoke .admin old :: step :: rest := by
  have hroles : ∃ others, distinctRoles roles = .admin :: others := by
    rw [distinctRoles, Role.all, List.filter_cons, if_pos (decide_eq_true hadmin)]
    exact ⟨_, rfl⟩
  obtain ⟨others, hothers⟩ := hroles
  rw [plan, hothers]
  cases others with
  | nil => exact ⟨_, _, rfl⟩
  | cons role others => exact ⟨_, _, rfl⟩

namespace Timelock

/-- How applying steps in order on behalf of a caller ends. -/
inductive Stepwise (timelock : Timelock) (caller : Address) (steps : List RoleStep) :
    Except HandoverError Nat × Timelock → Prop
  /-- The caller is an admin before every step, and all steps are applied. -/
  | completed :
      (∀ count < steps.length,
        (timelock.roles.applyAll (steps.take count)).holds .admin caller = true) →
      Stepwise timelock caller steps
        (.ok steps.length, { timelock with roles := timelock.roles.applyAll steps })
  /-- After some of the steps the caller is no admin any more, and after fewer steps still was one;
  only these steps are applied. -/
  | interrupted {count : Nat} :
      count < steps.length →
      (timelock.roles.applyAll (steps.take count)).holds .admin caller = false →
      (∀ fewer < count,
        (timelock.roles.applyAll (steps.take fewer)).holds .admin caller = true) →
      Stepwise timelock caller steps
        (.error (.interrupted count steps.length (.missingRole caller .admin)),
          { timelock with roles := timelock.roles.applyAll (steps.take count) })

/-! ## One step -/

section Step

variable {timelock : Timelock} {caller : Address} (applied total : Nat) (step : RoleStep)
  (rest : List RoleStep)

/-- The step of an admin is applied. -/
theorem applyFrom_cons_of_holds (hholds : timelock.roles.holds .admin caller = true) :
    applyFrom caller applied total timelock (step :: rest) =
      applyFrom caller (applied + 1) total
        { timelock with roles := timelock.roles.apply step } rest := by
  have hstep := (timelock.applyStep_eq_ok_iff caller step _).mpr ⟨hholds, rfl⟩
  rw [applyFrom, hstep]

/-- The step of anybody else is refused, and the rest is left out. -/
theorem applyFrom_cons_of_lacks (hlacks : timelock.roles.holds .admin caller = false) :
    applyFrom caller applied total timelock (step :: rest) =
      (.error (.interrupted applied total (.missingRole caller .admin)), timelock) := by
  rw [applyFrom, applyStep, missing?, hlacks]
  rfl

end Step

/-! ## All steps -/

/-- Steps before each of which the caller is an admin are applied, and then the others follow. -/
theorem applyFrom_append {timelock : Timelock} {caller : Address} (applied total : Nat)
    {made : List RoleStep} (others : List RoleStep)
    (authorized : ∀ count < made.length,
      (timelock.roles.applyAll (made.take count)).holds .admin caller = true) :
    applyFrom caller applied total timelock (made ++ others) =
      applyFrom caller (applied + made.length) total
        { timelock with roles := timelock.roles.applyAll made } others := by
  induction made generalizing timelock applied with
  | nil => rfl
  | cons step made ih =>
    have hfirst : timelock.roles.holds .admin caller = true := authorized 0 (Nat.zero_lt_succ _)
    -- behind the first step come the tables that the remaining steps lead to from there
    have hlater : ∀ count < made.length,
        ((timelock.roles.apply step).applyAll (made.take count)).holds .admin caller = true := by
      intro count hcount
      exact authorized (count + 1) (Nat.succ_lt_succ hcount)
    rw [List.cons_append, applyFrom_cons_of_holds applied total step (made ++ others) hfirst,
      ih (applied + 1) hlater, List.length_cons, Nat.add_right_comm, Nat.add_assoc]
    rfl

theorem applyInOrder_of_completed {timelock : Timelock} {caller : Address} {steps : List RoleStep}
    (authorized : ∀ count < steps.length,
      (timelock.roles.applyAll (steps.take count)).holds .admin caller = true) :
    timelock.applyInOrder caller steps =
      (.ok steps.length, { timelock with roles := timelock.roles.applyAll steps }) := by
  have hrun := applyFrom_append 0 steps.length [] authorized
  rw [List.append_nil] at hrun
  rw [applyInOrder, hrun, applyFrom]

theorem applyInOrder_of_interrupted {timelock : Timelock} {caller : Address}
    {steps : List RoleStep} {count : Nat} (hcount : count < steps.length)
    (hlacks : (timelock.roles.applyAll (steps.take count)).holds .admin caller = false)
    (authorized : ∀ fewer < count,
      (timelock.roles.applyAll (steps.take fewer)).holds .admin caller = true) :
    timelock.applyInOrder caller steps =
      (.error (.interrupted count steps.length (.missingRole caller .admin)),
        { timelock with roles := timelock.roles.applyAll (steps.take count) }) := by
  have hlength : (steps.take count).length = count := by
    rw [List.length_take]
    omega
  have hfront : ∀ fewer < (steps.take count).length,
      (timelock.roles.applyAll ((steps.take count).take fewer)).holds .admin caller = true := by
    intro fewer hfewer
    rw [hlength] at hfewer
    rw [List.take_take, Nat.min_eq_left (Nat.le_of_lt hfewer)]
    exact authorized fewer hfewer
  -- the step behind these is the one that is refused
  have hsplit : steps = steps.take count ++ steps[count] :: steps.drop (count + 1) := by
    rw [List.getElem_cons_drop, List.take_append_drop]
  have hrun := applyFrom_append 0 steps.length (steps[count] :: steps.drop (count + 1)) hfront
  rw [← hsplit, hlength, Nat.zero_add] at hrun
  rw [applyInOrder, hrun]
  exact applyFrom_cons_of_lacks _ _ _ _ hlacks

/-- Every end of applying steps in order is one of the two. -/
theorem stepwise_applyInOrder (timelock : Timelock) (caller : Address) (steps : List RoleStep) :
    timelock.Stepwise caller steps (timelock.applyInOrder caller steps) := by
  by_cases hall : ∀ count < steps.length,
      (timelock.roles.applyAll (steps.take count)).holds .admin caller = true
  · rw [applyInOrder_of_completed hall]
    exact .completed hall
  · have hsome : ∃ count, count < steps.length ∧
        (timelock.roles.applyAll (steps.take count)).holds .admin caller = false := by
      simpa using hall
    -- of the counts of steps after which the caller is no admin the least one decides
    obtain ⟨hcount, hlacks⟩ := Nat.find_spec hsome
    have authorized : ∀ fewer < Nat.find hsome,
        (timelock.roles.applyAll (steps.take fewer)).holds .admin caller = true := by
      intro fewer hfewer
      have hnot := Nat.find_min hsome hfewer
      simpa [Nat.lt_trans hfewer hcount] using hnot
    rw [applyInOrder_of_interrupted hcount hlacks authorized]
    exact .interrupted hcount hlacks authorized

/-- Steps on a timelock have the effect that they have on its table, up to the first one before which
the caller is no admin; what has been applied by then stays, the answer tells how much that is, and
nothing but the roles is changed. In particular an admin who hands the admin role over is refused
everything after the first step, in which the role is taken, even if the role is to be given back. -/
theorem stops_where_authority_ends (timelock : Timelock) (caller : Address)
    (steps : List RoleStep) :
    (∀ done, timelock.applyInOrder caller steps = done ↔ timelock.Stepwise caller steps done) ∧
    ∀ new roles, Role.admin ∈ roles → timelock.roles.holds .admin caller = true →
      timelock.applyInOrder caller (Handover.plan caller new roles) =
        (.error (.interrupted 1 (Handover.plan caller new roles).length
            (.missingRole caller .admin)),
          { timelock with roles := timelock.roles.revoke .admin caller }) := by
  refine ⟨fun done => ⟨?_, ?_⟩, fun new roles hadmin hholds => ?_⟩
  · rintro rfl
    exact stepwise_applyInOrder timelock caller steps
  · intro hdone
    cases hdone with
    | completed authorized => exact applyInOrder_of_completed authorized
    | interrupted hcount hlacks authorized =>
      exact applyInOrder_of_interrupted hcount hlacks authorized
  · obtain ⟨step, rest, hplan⟩ := Handover.plan_of_admin_mem caller new hadmin
    have hlacks : (timelock.roles.revoke .admin caller).holds .admin caller = false := by
      simp [Authority.holds_revoke]
    rw [hplan]
    refine applyInOrder_of_interrupted (by simp) hlacks ?_
    intro fewer hfewer
    obtain rfl : fewer = 0 := by omega
    exact hholds

end Timelock

end GovernanceRelay
