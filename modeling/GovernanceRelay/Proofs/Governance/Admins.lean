import GovernanceRelay.Proofs.Governance.Invariant

/-!
# Who influences a governance

Whoever is no admin is refused, whatever the request, and nobody else is refused for that reason
(`Governance.answer_eq_unauthorized_iff`). A request that is granted changes the part of the
governance that it is about and no other (`Governance.Granted.agreeBut`). So the requests of callers
who were no admins at the time may be left out of a run: the others are answered as before, and the
governance ends up the same (`Governance.admins_alone_govern`). Who is an admin may change with any
request, so the two runs are compared moment by moment.
-/

set_option autoImplicit false

namespace GovernanceRelay

/-- What makes up a governance. -/
inductive GovernancePart where
  /-- Who holds which role. -/
  | roles
  /-- Who speaks for which chain. -/
  | mediators
  /-- Which calls are allowed, and how that came about. -/
  | policies
  /-- Where calls to entrypoints carry batches. -/
  | routes
deriving DecidableEq

/-- The part of a governance that a request is about. -/
def GovernanceRequest.part : GovernanceRequest → GovernancePart
  | .setMediator _ _ _ => .mediators
  | .setPolicies _ _ => .policies
  | .setPolicyColumns _ _ => .policies
  | .setRoute _ _ _ => .routes
  | .handOver _ _ _ _ => .roles
  | .handOverTogether _ _ _ _ => .roles

namespace Governance

/-- Two governances agree in all parts but perhaps one. -/
structure AgreeBut (part : GovernancePart) (left right : Governance) : Prop where
  /-- The roles, unless they are the part. -/
  roles : part ≠ .roles → right.roles = left.roles
  /-- The mediators, unless they are the part. -/
  mediators : part ≠ .mediators → right.mediators = left.mediators
  /-- The allow-list with its history, unless it is the part. -/
  policies : part ≠ .policies → right.policies = left.policies
  /-- The routes, unless they are the part. -/
  routes : part ≠ .routes → right.routes = left.routes

/-- A granted request changes nothing but the part that it is about. -/
theorem Granted.agreeBut {governance : Governance} {request : GovernanceRequest}
    {done : GovernanceReport × Governance} (granted : governance.Granted request done) :
    AgreeBut request.part governance done.2 := by
  cases granted with
  | setMediator _ => exact ⟨fun _ => rfl, fun h => absurd rfl h, fun _ => rfl, fun _ => rfl⟩
  | setPolicies _ => exact ⟨fun _ => rfl, fun _ => rfl, fun h => absurd rfl h, fun _ => rfl⟩
  | setPolicyColumns _ => exact ⟨fun _ => rfl, fun _ => rfl, fun h => absurd rfl h, fun _ => rfl⟩
  | setRoute _ => exact ⟨fun _ => rfl, fun _ => rfl, fun _ => rfl, fun h => absurd rfl h⟩
  | handOver => exact ⟨fun h => absurd rfl h, fun _ => rfl, fun _ => rfl, fun _ => rfl⟩
  | handOverTogether _ => exact ⟨fun h => absurd rfl h, fun _ => rfl, fun _ => rfl, fun _ => rfl⟩

/-! ## The admin check -/

section Check

variable {governance : Governance} {request : GovernanceRequest}

/-- The check of the caller comes before everything else. -/
theorem answer_of_not_admin (h : governance.roles.holds .admin request.caller = false) :
    governance.answer request = .error (.unauthorized request.caller) := by
  have hcheck : governance.unauthorized? request.caller = some (.unauthorized request.caller) := by
    simp [unauthorized?, h]
  cases request with
  | setMediator caller chain mediator =>
    change governance.unauthorized? caller = some (.unauthorized caller) at hcheck
    rw [answer, setMediator, hcheck]
    rfl
  | setPolicies caller entries =>
    change governance.unauthorized? caller = some (.unauthorized caller) at hcheck
    rw [answer, setPolicies, hcheck]
    rfl
  | setPolicyColumns caller columns =>
    change governance.unauthorized? caller = some (.unauthorized caller) at hcheck
    rw [answer, setPolicyColumns, hcheck]
    rfl
  | setRoute caller entrypoint destination =>
    change governance.unauthorized? caller = some (.unauthorized caller) at hcheck
    rw [answer, setRoute, hcheck]
    rfl
  | handOver caller old new roles =>
    change governance.unauthorized? caller = some (.unauthorized caller) at hcheck
    rw [answer, handOver, hcheck]
    rfl
  | handOverTogether caller old new roles =>
    change governance.unauthorized? caller = some (.unauthorized caller) at hcheck
    rw [answer, handOverTogether, hcheck]
    rfl

/-- What an admin asks for is refused for other reasons, if at all. -/
theorem answer_ne_unauthorized (h : governance.roles.holds .admin request.caller = true)
    (account : Address) : governance.answer request ≠ .error (.unauthorized account) := by
  have hcheck : governance.unauthorized? request.caller = none := by
    simp [unauthorized?, h]
  intro hanswer
  -- behind the check every kind of request has refusals of its own
  cases request with
  | setMediator caller chain mediator =>
    change governance.unauthorized? caller = none at hcheck
    rw [answer, setMediator, hcheck] at hanswer
    cases hassign : governance.mediators.assign chain mediator <;>
      simp [hassign, Except.map] at hanswer
  | setPolicies caller entries =>
    change governance.unauthorized? caller = none at hcheck
    rw [answer, setPolicies, hcheck] at hanswer
    cases hupdate : governance.policies.update entries <;>
      simp [hupdate, Except.map] at hanswer
  | setPolicyColumns caller columns =>
    change governance.unauthorized? caller = none at hcheck
    rw [answer, setPolicyColumns, hcheck] at hanswer
    cases hupdate : governance.policies.updateColumns columns <;>
      simp [hupdate, Except.map] at hanswer
  | setRoute caller entrypoint destination =>
    change governance.unauthorized? caller = none at hcheck
    rw [answer, setRoute, hcheck] at hanswer
    cases hzero : entrypoint.isZero <;> simp [hzero, Except.map] at hanswer
  | handOver caller old new roles =>
    change governance.unauthorized? caller = none at hcheck
    rw [answer, handOver, hcheck] at hanswer
    simp [Except.map] at hanswer
  | handOverTogether caller old new roles =>
    change governance.unauthorized? caller = none at hcheck
    rw [answer, handOverTogether, hcheck] at hanswer
    cases happlied : governance.roles.applyTogether (Handover.plan old new roles) <;>
      simp [happlied, Except.map] at hanswer

/-- A caller is refused as unauthorized exactly if the caller is no admin. -/
theorem answer_eq_unauthorized_iff (account : Address) :
    governance.answer request = .error (.unauthorized account) ↔
      governance.roles.holds .admin request.caller = false ∧ account = request.caller := by
  constructor
  · intro hanswer
    cases hadmin : governance.roles.holds .admin request.caller with
    | true => exact absurd hanswer (answer_ne_unauthorized hadmin account)
    | false =>
      rw [answer_of_not_admin hadmin] at hanswer
      cases hanswer
      exact ⟨rfl, rfl⟩
  · rintro ⟨hadmin, rfl⟩
    exact answer_of_not_admin hadmin

end Check

/-! ## Runs without the requests of others -/

/-- What the caller of a request is told, granted or refused. -/
def told (moment : Moment Governance GovernanceRequest) :
    Except GovernanceError GovernanceReport :=
  (moment.before.answer moment.event).map Prod.fst

/-- Whether the caller of a request is an admin at the moment. -/
def byAdmin (moment : Moment Governance GovernanceRequest) : Bool :=
  moment.before.roles.holds .admin moment.event.caller

/-- The requests of a run whose callers are admins at the moment. -/
def requestsOfAdmins (governance : Governance) (requests : List GovernanceRequest) :
    List GovernanceRequest :=
  ((course after governance requests).filter byAdmin).map Moment.event

/-- In every run from any governance: a caller is refused as unauthorized, whatever is asked,
exactly if the caller is no admin at the moment; a request that is refused for any reason changes
nothing; a request that is granted changes only the part that it is about; and if the requests of
callers who are no admins at the moment are left out, all others meet the same governance as before,
are told the same and lead to the same end. -/
theorem admins_alone_govern (governance : Governance) (requests : List GovernanceRequest) :
    let moments := course after governance requests
    let remaining := governance.requestsOfAdmins requests
    (∀ moment ∈ moments, ∀ account,
      moment.before.answer moment.event = .error (.unauthorized account) ↔
        byAdmin moment = false ∧ account = moment.event.caller) ∧
    (∀ moment ∈ moments, ∀ error, moment.before.answer moment.event = .error error →
      moment.after = moment.before) ∧
    (∀ moment ∈ moments, ∀ done, moment.before.answer moment.event = .ok done →
      moment.after = done.2 ∧ AgreeBut moment.event.part moment.before moment.after) ∧
    (course after governance remaining = moments.filter byAdmin ∧
      (course after governance remaining).map told = (moments.filter byAdmin).map told ∧
      governance.run remaining = governance.run requests) := by
  intro moments remaining
  have hafter : ∀ moment ∈ moments, moment.after = moment.before.after moment.event :=
    fun moment hmem => by
      obtain ⟨-, -, -, -, h⟩ := of_mem_course hmem
      exact h
  refine ⟨fun moment _ account => answer_eq_unauthorized_iff account,
    fun moment hmem error herror => ?_, fun moment hmem done hdone => ?_, ?_⟩
  · rw [hafter moment hmem, after_of_refused herror]
  · rw [hafter moment hmem, after_of_answer hdone]
    exact ⟨rfl, ((answer_eq_ok_iff _ _ done).mp hdone).2.agreeBut⟩
  · -- a request of a caller who is no admin is refused, and a refusal changes nothing
    obtain ⟨hcourse, hend⟩ := course_of_idle
      (fun now request hadmin => after_of_refused (answer_of_not_admin hadmin)) requests
    exact ⟨hcourse, congrArg (List.map told) hcourse, hend⟩

end Governance

end GovernanceRelay
