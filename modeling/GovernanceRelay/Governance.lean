import GovernanceRelay.AllowList
import GovernanceRelay.Handover
import GovernanceRelay.Mediators

/-!
# Governance of a chain

The roles, mediators, allowed calls and bridge entrypoints of one chain. Only an admin changes
them: every request names its caller, and a caller who is no admin is refused whatever is asked. A
request that is refused changes nothing.
-/

set_option autoImplicit false

namespace GovernanceRelay

/-- Why a request is refused. -/
inductive GovernanceError where
  /-- The caller is no admin. -/
  | unauthorized (caller : Address)
  /-- The mediator or the entrypoint is refused. -/
  | mediator (error : MediatorError)
  /-- The update of the allow-list is refused. -/
  | policy (error : PolicyError)
  /-- The handover is refused. -/
  | handover (error : HandoverError)
deriving DecidableEq

/-- The wording of each refusal. -/
def GovernanceError.message : GovernanceError → String
  | .unauthorized caller =>
    "Unauthorized: " ++ caller.toText ++ " does not hold the " ++ Role.admin.toText ++ " role"
  | .mediator error => error.message
  | .policy error => error.message
  | .handover error => error.message

/-- The governance of one chain. -/
structure Governance where
  /-- Who holds which role. -/
  roles : Authority
  /-- Who speaks for which chain. -/
  mediators : Mediators
  /-- Which calls are allowed. -/
  policies : AllowList
  /-- The chain that calls to an entrypoint carry batches to. -/
  routes : OrderedMap Address ChainId
deriving DecidableEq

namespace Governance

/-- The governance in which nothing is configured and nobody holds a role. -/
def empty : Governance := ⟨OrderedMap.empty, OrderedMap.empty, AllowList.empty, OrderedMap.empty⟩

/-- The governance with one admin and nothing else. -/
def create (admin : Address) : Governance := { empty with roles := Authority.ofAdmin admin }

/-- The refusal of a caller who is no admin. -/
def unauthorized? (governance : Governance) (caller : Address) : Option GovernanceError :=
  if governance.roles.holds .admin caller then none else some (.unauthorized caller)

/-- Give a chain its mediator, and tell which one it replaces. -/
def setMediator (governance : Governance) (caller : Address) (chain : ChainId)
    (mediator : Address) : Except GovernanceError (Option Address × Governance) :=
  match governance.unauthorized? caller with
  | some error => .error error
  | none =>
    match governance.mediators.assign chain mediator with
    | .error error => .error (.mediator error)
    | .ok (previous, mediators) => .ok (previous, { governance with mediators := mediators })

/-- Apply an update of the allow-list, and tell how many entries it has. -/
def setPolicies (governance : Governance) (caller : Address) (entries : List PolicyEntry) :
    Except GovernanceError (Nat × Governance) :=
  match governance.unauthorized? caller with
  | some error => .error error
  | none =>
    match governance.policies.update entries with
    | .error error => .error (.policy error)
    | .ok (count, policies) => .ok (count, { governance with policies := policies })

/-- Apply an update of the allow-list given by columns. -/
def setPolicyColumns (governance : Governance) (caller : Address) (columns : PolicyColumns) :
    Except GovernanceError (Nat × Governance) :=
  match governance.unauthorized? caller with
  | some error => .error error
  | none =>
    match governance.policies.updateColumns columns with
    | .error error => .error (.policy error)
    | .ok (count, policies) => .ok (count, { governance with policies := policies })

/-- Declare that calls to an entrypoint carry batches to a chain. -/
def setRoute (governance : Governance) (caller entrypoint : Address) (destination : ChainId) :
    Except GovernanceError Governance :=
  match governance.unauthorized? caller with
  | some error => .error error
  | none =>
    if entrypoint.isZero then .error (.mediator (.zeroAddress destination))
    else .ok { governance with routes := governance.routes.insert entrypoint destination }

/-- Hand roles over step by step, and tell the steps. -/
def handOver (governance : Governance) (caller old new : Address) (roles : List Role) :
    Except GovernanceError (List RoleStep × Governance) :=
  match governance.unauthorized? caller with
  | some error => .error error
  | none =>
    let steps := Handover.plan old new roles
    .ok (steps, { governance with roles := governance.roles.applyAll steps })

/-- Hand roles over in one step, unless no admin would be left. -/
def handOverTogether (governance : Governance) (caller old new : Address) (roles : List Role) :
    Except GovernanceError (List RoleStep × Governance) :=
  match governance.unauthorized? caller with
  | some error => .error error
  | none =>
    let steps := Handover.plan old new roles
    match governance.roles.applyTogether steps with
    | .error error => .error (.handover error)
    | .ok (_, table) => .ok (steps, { governance with roles := table })

/-- The mediator of a chain. -/
def mediatorOf (governance : Governance) (chain : ChainId) : Option Address :=
  governance.mediators.find? chain

/-- The chain that calls to an entrypoint carry batches to. -/
def routeOf (governance : Governance) (entrypoint : Address) : Option ChainId :=
  governance.routes.find? entrypoint

end Governance

end GovernanceRelay
