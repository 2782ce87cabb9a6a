import GovernanceRelay.Proofs.AllowList
import GovernanceRelay.Proofs.Course
import GovernanceRelay.Proofs.Governance.Request

/-!
# What a granted request does

A governance grants a request exactly if the caller is an admin and the request itself is in order,
and then changes one of its four parts (`Governance.answer_eq_ok_iff`). `Governance.Granted` says
for every kind of request what is asked of it, what is reported and what the governance is
afterwards.
-/

set_option autoImplicit false

namespace GovernanceRelay

/-- Who makes a request. -/
def GovernanceRequest.caller : GovernanceRequest → Address
  | .setMediator caller _ _ => caller
  | .setPolicies caller _ => caller
  | .setPolicyColumns caller _ => caller
  | .setRoute caller _ _ => caller
  | .handOver caller _ _ _ => caller
  | .handOverTogether caller _ _ _ => caller

namespace Governance

/-- The governance after a handover. -/
def handedOver (governance : Governance) (old new : Address) (roles : List Role) : Governance :=
  { governance with roles := governance.roles.applyAll (Handover.plan old new roles) }

/-- A request that is in order, what is reported of it and the governance afterwards. -/
inductive Granted (governance : Governance) :
    GovernanceRequest → GovernanceReport × Governance → Prop
  | setMediator {caller mediator : Address} {chain : ChainId} :
      mediator.isZero = false →
      Granted governance (.setMediator caller chain mediator)
        (.replaced (governance.mediators.find? chain),
          { governance with mediators := governance.mediators.insert chain mediator })
  | setPolicies {caller : Address} {entries : List PolicyEntry} {done : Nat × AllowList} :
      governance.policies.update entries = .ok done →
      Granted governance (.setPolicies caller entries)
        (.updated done.1, { governance with policies := done.2 })
  | setPolicyColumns {caller : Address} {columns : PolicyColumns} {done : Nat × AllowList} :
      governance.policies.updateColumns columns = .ok done →
      Granted governance (.setPolicyColumns caller columns)
        (.updated done.1, { governance with policies := done.2 })
  | setRoute {caller entrypoint : Address} {destination : ChainId} :
      entrypoint.isZero = false →
      Granted governance (.setRoute caller entrypoint destination)
        (.declared,
          { governance with routes := governance.routes.insert entrypoint destination })
  | handOver {caller old new : Address} {roles : List Role} :
      Granted governance (.handOver caller old new roles)
        (.handedOver (Handover.plan old new roles), governance.handedOver old new roles)
  | handOverTogether {caller old new : Address} {roles : List Role} :
      (governance.handedOver old new roles).roles.holderCount .admin ≠ 0 →
      Granted governance (.handOverTogether caller old new roles)
        (.handedOver (Handover.plan old new roles), governance.handedOver old new roles)

/-! ## One kind of request after the other -/

section Requests

variable (governance : Governance) (caller : Address)

theorem setMediator_eq_ok_iff (chain : ChainId) (mediator : Address)
    (done : Option Address × Governance) :
    governance.setMediator caller chain mediator = .ok done ↔
      governance.roles.holds .admin caller = true ∧ mediator.isZero = false ∧
        done = (governance.mediators.find? chain,
          { governance with mediators := governance.mediators.insert chain mediator }) := by
  rw [setMediator, unauthorized?, Mediators.assign]
  cases governance.roles.holds .admin caller with
  | false => simp
  | true => cases mediator.isZero <;> simp [eq_comm]

theorem setPolicies_eq_ok_iff (entries : List PolicyEntry) (done : Nat × Governance) :
    governance.setPolicies caller entries = .ok done ↔
      governance.roles.holds .admin caller = true ∧
        ∃ updated, governance.policies.update entries = .ok updated ∧
          done = (updated.1, { governance with policies := updated.2 }) := by
  rw [setPolicies, unauthorized?]
  cases governance.roles.holds .admin caller with
  | false => simp
  | true => cases governance.policies.update entries <;> simp [eq_comm]

theorem setPolicyColumns_eq_ok_iff (columns : PolicyColumns) (done : Nat × Governance) :
    governance.setPolicyColumns caller columns = .ok done ↔
      governance.roles.holds .admin caller = true ∧
        ∃ updated, governance.policies.updateColumns columns = .ok updated ∧
          done = (updated.1, { governance with policies := updated.2 }) := by
  rw [setPolicyColumns, unauthorized?]
  cases governance.roles.holds .admin caller with
  | false => simp
  | true => cases governance.policies.updateColumns columns <;> simp [eq_comm]

theorem setRoute_eq_ok_iff (entrypoint : Address) (destination : ChainId) (done : Governance) :
    governance.setRoute caller entrypoint destination = .ok done ↔
      governance.roles.holds .admin caller = true ∧ entrypoint.isZero = false ∧
        done = { governance with routes := governance.routes.insert entrypoint destination } := by
  rw [setRoute, unauthorized?]
  cases governance.roles.holds .admin caller with
  | false => simp
  | true => cases entrypoint.isZero <;> simp [eq_comm]

theorem handOver_eq_ok_iff (old new : Address) (roles : List Role)
    (done : List RoleStep × Governance) :
    governance.handOver caller old new roles = .ok done ↔
      governance.roles.holds .admin caller = true ∧
        done = (Handover.plan old new roles, governance.handedOver old new roles) := by
  rw [handOver, unauthorized?, handedOver]
  cases governance.roles.holds .admin caller <;> simp [eq_comm]

theorem handOverTogether_eq_ok_iff (old new : Address) (roles : List Role)
    (done : List RoleStep × Governance) :
    governance.handOverTogether caller old new roles = .ok done ↔
      governance.roles.holds .admin caller = true ∧
        (governance.handedOver old new roles).roles.holderCount .admin ≠ 0 ∧
        done = (Handover.plan old new roles, governance.handedOver old new roles) := by
  rw [handOverTogether, unauthorized?, handedOver]
  cases governance.roles.holds .admin caller with
  | false => simp
  | true =>
    by_cases hleft :
        (governance.roles.applyAll (Handover.plan old new roles)).holderCount .admin = 0
    · simp [Authority.applyTogether, hleft]
    · simp [Authority.applyTogether, hleft, eq_comm]

end Requests

/-- A request is granted exactly if the caller is an admin and the request is in order. -/
theorem answer_eq_ok_iff (governance : Governance) (request : GovernanceRequest)
    (done : GovernanceReport × Governance) :
    governance.answer request = .ok done ↔
      governance.roles.holds .admin request.caller = true ∧ governance.Granted request done := by
  constructor
  · intro h
    cases request with
    | setMediator caller chain mediator =>
      obtain ⟨given, hgiven, rfl⟩ := (except_map_eq_ok_iff _ _ _).mp h
      obtain ⟨hadmin, hmediator, rfl⟩ := (setMediator_eq_ok_iff _ _ _ _ _).mp hgiven
      exact ⟨hadmin, .setMediator hmediator⟩
    | setPolicies caller entries =>
      obtain ⟨given, hgiven, rfl⟩ := (except_map_eq_ok_iff _ _ _).mp h
      obtain ⟨hadmin, updated, hupdated, rfl⟩ := (setPolicies_eq_ok_iff _ _ _ _).mp hgiven
      exact ⟨hadmin, .setPolicies hupdated⟩
    | setPolicyColumns caller columns =>
      obtain ⟨given, hgiven, rfl⟩ := (except_map_eq_ok_iff _ _ _).mp h
      obtain ⟨hadmin, updated, hupdated, rfl⟩ := (setPolicyColumns_eq_ok_iff _ _ _ _).mp hgiven
      exact ⟨hadmin, .setPolicyColumns hupdated⟩
    | setRoute caller entrypoint destination =>
      obtain ⟨given, hgiven, rfl⟩ := (except_map_eq_ok_iff _ _ _).mp h
      obtain ⟨hadmin, hentrypoint, rfl⟩ := (setRoute_eq_ok_iff _ _ _ _ _).mp hgiven
      exact ⟨hadmin, .setRoute hentrypoint⟩
    | handOver caller old new roles =>
      obtain ⟨given, hgiven, rfl⟩ := (except_map_eq_ok_iff _ _ _).mp h
      obtain ⟨hadmin, rfl⟩ := (handOver_eq_ok_iff _ _ _ _ _ _).mp hgiven
      exact ⟨hadmin, .handOver⟩
    | handOverTogether caller old new roles =>
      obtain ⟨given, hgiven, rfl⟩ := (except_map_eq_ok_iff _ _ _).mp h
      obtain ⟨hadmin, hleft, rfl⟩ := (handOverTogether_eq_ok_iff _ _ _ _ _ _).mp hgiven
      exact ⟨hadmin, .handOverTogether hleft⟩
  · rintro ⟨hadmin, granted⟩
    cases granted with
    | setMediator hmediator =>
      exact (except_map_eq_ok_iff _ _ _).mpr
        ⟨_, (setMediator_eq_ok_iff _ _ _ _ _).mpr ⟨hadmin, hmediator, rfl⟩, rfl⟩
    | setPolicies hupdated =>
      exact (except_map_eq_ok_iff _ _ _).mpr
        ⟨_, (setPolicies_eq_ok_iff _ _ _ _).mpr ⟨hadmin, _, hupdated, rfl⟩, rfl⟩
    | setPolicyColumns hupdated =>
      exact (except_map_eq_ok_iff _ _ _).mpr
        ⟨_, (setPolicyColumns_eq_ok_iff _ _ _ _).mpr ⟨hadmin, _, hupdated, rfl⟩, rfl⟩
    | setRoute hentrypoint =>
      exact (except_map_eq_ok_iff _ _ _).mpr
        ⟨_, (setRoute_eq_ok_iff _ _ _ _ _).mpr ⟨hadmin, hentrypoint, rfl⟩, rfl⟩
    | handOver =>
      exact (except_map_eq_ok_iff _ _ _).mpr
        ⟨_, (handOver_eq_ok_iff _ _ _ _ _ _).mpr ⟨hadmin, rfl⟩, rfl⟩
    | handOverTogether hleft =>
      exact (except_map_eq_ok_iff _ _ _).mpr
        ⟨_, (handOverTogether_eq_ok_iff _ _ _ _ _ _).mpr ⟨hadmin, hleft, rfl⟩, rfl⟩

theorem after_of_granted {governance : Governance} {request : GovernanceRequest}
    {done : GovernanceReport × Governance}
    (hadmin : governance.roles.holds .admin request.caller = true)
    (granted : governance.Granted request done) : governance.after request = done.2 :=
  after_of_answer ((governance.answer_eq_ok_iff request done).mpr ⟨hadmin, granted⟩)

/-- What holds of a governance, and of what it becomes if the request is granted, holds after the
request. -/
theorem holds_after {P : Governance → Prop} {governance : Governance} {request : GovernanceRequest}
    (now : P governance) (keep : ∀ done, governance.Granted request done → P done.2) :
    P (governance.after request) := by
  cases hanswer : governance.answer request with
  | error error =>
    rw [after_of_refused hanswer]
    exact now
  | ok done =>
    rw [after_of_answer hanswer]
    exact keep done ((governance.answer_eq_ok_iff request done).mp hanswer).2

end Governance

end GovernanceRelay
