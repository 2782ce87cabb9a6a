import GovernanceRelay.Timelock

/-!
# Handing over authority

A handover takes roles from an old account and then gives them to a new one, each half in the order
of the roles. Between the halves a role may have no holder; `Handover.gaps` tells where. Steps can
be applied one after another, stopping at the first that is refused, or together unless that would
leave no admin.
-/

set_option autoImplicit false

namespace GovernanceRelay

/-- What goes wrong while authority changes hands. -/
inductive HandoverError where
  /-- A role is without a holder after a step, counted from one. -/
  | gap (role : Role) (step : Nat)
  /-- There would be no admin left. -/
  | adminLockout
  /-- A step was refused after some of all steps had been applied. -/
  | interrupted (applied total : Nat) (reason : TimelockError)
deriving DecidableEq

/-- The wording of each fault. -/
def HandoverError.message : HandoverError → String
  | .gap role step =>
    "Role " ++ role.toText ++ " has no holder after step " ++ toString step
  | .adminLockout => "Transition would leave the admin role without a holder"
  | .interrupted applied total reason =>
    "Transition interrupted after " ++ toString applied ++ " of " ++ toString total ++ " steps: "
      ++ reason.message

namespace Handover

/-- The distinct roles of a list, in order. -/
def distinctRoles (roles : List Role) : List Role := Role.all.filter fun role => role ∈ roles

/-- The steps that move roles from one account to another: all are taken, then all are given. -/
def plan (old new : Address) (roles : List Role) : List RoleStep :=
  (distinctRoles roles).map (RoleStep.revoke · old)
    ++ (distinctRoles roles).map (RoleStep.grant · new)

/-- The gaps of the steps that follow some number of others, each role reported once. -/
def gapsFrom (initial : Authority) (reported : List Role) (table : Authority) (count : Nat) :
    List RoleStep → List HandoverError
  | [] => []
  | step :: rest =>
    let table := table.apply step
    if table.holderCount step.role = 0 ∧ 0 < initial.holderCount step.role
        ∧ step.role ∉ reported then
      .gap step.role (count + 1)
        :: gapsFrom initial (step.role :: reported) table (count + 1) rest
    else gapsFrom initial reported table (count + 1) rest

/-- The roles that have a holder at first and none after some step, with the first such step. -/
def gaps (table : Authority) (steps : List RoleStep) : List HandoverError :=
  gapsFrom table [] table 0 steps

end Handover

namespace Authority

/-- Apply all steps, or none if no admin would be left; tells how many changed something. -/
def applyTogether (table : Authority) (steps : List RoleStep) :
    Except HandoverError (Nat × Authority) :=
  if (table.applyAll steps).holderCount .admin = 0 then .error .adminLockout
  else .ok (table.changeCount steps, table.applyAll steps)

end Authority

namespace Timelock

/-- Apply the remaining steps on behalf of a caller, some number having been applied. -/
def applyFrom (caller : Address) (applied total : Nat) (timelock : Timelock) :
    List RoleStep → Except HandoverError Nat × Timelock
  | [] => (.ok total, timelock)
  | step :: rest =>
    match timelock.applyStep caller step with
    | .error reason => (.error (.interrupted applied total reason), timelock)
    | .ok timelock => applyFrom caller (applied + 1) total timelock rest

/-- Apply steps one after another on behalf of a caller, stopping at the first that is refused;
what was applied before stays. -/
def applyInOrder (timelock : Timelock) (caller : Address) (steps : List RoleStep) :
    Except HandoverError Nat × Timelock :=
  applyFrom caller 0 steps.length timelock steps

end Timelock

end GovernanceRelay
