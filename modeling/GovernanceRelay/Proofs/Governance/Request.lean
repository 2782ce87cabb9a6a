import GovernanceRelay.Governance

/-!
# Requests to a governance

A request is one of the six changes that a governance offers, with the caller and what the caller
asks for. A governance answers a request with what it reports and the governance afterwards, or
refuses it (`Governance.answer`). A refused request leaves the governance as it was, so there is a
governance after every request (`Governance.after`).
-/

set_option autoImplicit false

namespace GovernanceRelay

/-- What a caller asks of a governance. -/
inductive GovernanceRequest where
  /-- Give a chain its mediator. -/
  | setMediator (caller : Address) (chain : ChainId) (mediator : Address)
  /-- Update the allow-list. -/
  | setPolicies (caller : Address) (entries : List PolicyEntry)
  /-- Update the allow-list by columns. -/
  | setPolicyColumns (caller : Address) (columns : PolicyColumns)
  /-- Declare where calls to an entrypoint carry batches. -/
  | setRoute (caller entrypoint : Address) (destination : ChainId)
  /-- Hand roles over step by step. -/
  | handOver (caller old new : Address) (roles : List Role)
  /-- Hand roles over in one step. -/
  | handOverTogether (caller old new : Address) (roles : List Role)

/-- What a governance reports of a request that it granted. -/
inductive GovernanceReport where
  /-- The mediator that was replaced. -/
  | replaced (previous : Option Address)
  /-- The number of entries of the update. -/
  | updated (count : Nat)
  /-- The entrypoint is declared. -/
  | declared
  /-- The steps of the handover. -/
  | handedOver (steps : List RoleStep)
deriving DecidableEq

namespace Governance

/-- The answer of a governance to a request. -/
def answer (governance : Governance) :
    GovernanceRequest → Except GovernanceError (GovernanceReport × Governance)
  | .setMediator caller chain mediator =>
    (governance.setMediator caller chain mediator).map fun done => (.replaced done.1, done.2)
  | .setPolicies caller entries =>
    (governance.setPolicies caller entries).map fun done => (.updated done.1, done.2)
  | .setPolicyColumns caller columns =>
    (governance.setPolicyColumns caller columns).map fun done => (.updated done.1, done.2)
  | .setRoute caller entrypoint destination =>
    (governance.setRoute caller entrypoint destination).map fun done => (.declared, done)
  | .handOver caller old new roles =>
    (governance.handOver caller old new roles).map fun done => (.handedOver done.1, done.2)
  | .handOverTogether caller old new roles =>
    (governance.handOverTogether caller old new roles).map fun done => (.handedOver done.1, done.2)

/-- The governance after a request. -/
def after (governance : Governance) (request : GovernanceRequest) : Governance :=
  match governance.answer request with
  | .ok (_, changed) => changed
  | .error _ => governance

section After

variable {governance : Governance} {request : GovernanceRequest}

theorem after_of_answer {done : GovernanceReport × Governance}
    (h : governance.answer request = .ok done) : governance.after request = done.2 := by
  rw [after, h]

theorem after_of_refused {error : GovernanceError}
    (h : governance.answer request = .error error) : governance.after request = governance := by
  rw [after, h]

end After

end Governance

end GovernanceRelay
