import GovernanceRelay.Proofs.Authority
import GovernanceRelay.Proofs.Governance.Granted

/-!
# What holds of a governance at all times

Whatever is asked of a governance that began with one admin, and by whomever, it has an admin after
every request, keeps no role without a holder, names the zero address neither as a mediator nor as
an entrypoint, and is about proper calls only (`Governance.always_in_order`). A handover takes roles
before it gives them, so it is only after all of its steps that every role has a holder again: the
new account holds each role that was touched.
-/

set_option autoImplicit false

namespace GovernanceRelay

theorem FixedBytes.isZero_eq_false_iff {length : Nat} {name : FixedBytes length} :
    name.isZero = false ↔ name ≠ FixedBytes.zero := by
  rw [FixedBytes.isZero, decide_eq_false_iff_not]

/-- Where the zero address mediates no chain, a mediator other than it may be added. -/
theorem Mediators.nonzero_insert {mediators : Mediators}
    (nonzero : ∀ chain mediator, mediators.find? chain = some mediator → mediator.isZero = false)
    {added : Address} (hadded : added.isZero = false) (chain : ChainId) :
    ∀ other mediator, (mediators.insert chain added).find? other = some mediator →
      mediator.isZero = false := by
  intro other mediator h
  rw [OrderedMap.find?_insert] at h
  split at h
  · cases h
    exact hadded
  · exact nonzero other mediator h

namespace Authority

theorem size_pos_of_peopled {table : Authority} (peopled : table.Peopled) {role : Role}
    {set : OrderedSet Address} (hfind : table.find? role = some set) : 0 < set.size := by
  obtain ⟨account, hholds⟩ := peopled role set hfind
  rw [holds, hfind] at hholds
  exact set.size_pos_iff.mpr ⟨account, hholds⟩

theorem peopled_ofAdmin (admin : Address) : (ofAdmin admin).Peopled :=
  peopled_empty.grant .admin admin

/-- After a handover every role has a holder that had one before. -/
theorem exists_holds_handover {table : Authority} (old new : Address) (roles : List Role)
    {role : Role} (held : ∃ account, table.holds role account = true) :
    ∃ account, (table.applyAll (Handover.plan old new roles)).holds role account = true := by
  simp only [holds_handover]
  by_cases hrole : role ∈ roles
  · exact ⟨new, .inl ⟨hrole, rfl⟩⟩
  · obtain ⟨account, haccount⟩ := held
    exact ⟨account, .inr ⟨fun hboth => hrole hboth.1, haccount⟩⟩

theorem Peopled.handover {table : Authority} (peopled : table.Peopled) (old new : Address)
    (roles : List Role) : (table.applyAll (Handover.plan old new roles)).Peopled := by
  intro role set hfind
  by_cases hrole : role ∈ roles
  · exact ⟨new, (table.holds_handover old new roles role new).mpr (.inl ⟨hrole, rfl⟩)⟩
  · rw [table.find?_handover_of_not_mem old new hrole] at hfind
    exact exists_holds_handover old new roles (peopled role set hfind)

end Authority

namespace Governance

/-- The governance after a number of requests. -/
def run (governance : Governance) (requests : List GovernanceRequest) : Governance :=
  requests.foldl after governance

theorem run_append (governance : Governance) (requests more : List GovernanceRequest) :
    governance.run (requests ++ more) = (governance.run requests).run more :=
  List.foldl_append

theorem run_concat (governance : Governance) (requests : List GovernanceRequest)
    (request : GovernanceRequest) :
    governance.run (requests ++ [request]) = (governance.run requests).after request := by
  rw [run, List.foldl_append]
  rfl

/-- A governance is in order if it has an admin and nothing that is zero is part of it. -/
structure InOrder (governance : Governance) : Prop where
  /-- There is an admin. -/
  administered : ∃ account, governance.roles.holds .admin account = true
  /-- No role is kept without a holder. -/
  peopled : governance.roles.Peopled
  /-- The zero address mediates no chain. -/
  mediators : ∀ chain mediator, governance.mediators.find? chain = some mediator →
    mediator.isZero = false
  /-- The zero address is no entrypoint. -/
  entrypoints : ∀ entrypoint destination, governance.routes.find? entrypoint = some destination →
    entrypoint.isZero = false
  /-- The allow-list is about proper calls. -/
  policies : governance.policies.Proper

theorem inOrder_create (admin : Address) : (create admin).InOrder where
  administered := ⟨admin, by rw [create, Authority.ofAdmin, Authority.holds_grant]; simp⟩
  peopled := Authority.peopled_ofAdmin admin
  mediators chain mediator h := by cases h
  entrypoints entrypoint destination h := by cases h
  policies := AllowList.proper_empty

theorem InOrder.handedOver {governance : Governance} (inOrder : governance.InOrder)
    (old new : Address) (roles : List Role) : (governance.handedOver old new roles).InOrder :=
  { inOrder with
    administered := Authority.exists_holds_handover old new roles inOrder.administered
    peopled := inOrder.peopled.handover old new roles }

/-- A request that is granted keeps a governance in order. -/
theorem InOrder.granted {governance : Governance} (inOrder : governance.InOrder)
    {request : GovernanceRequest} {done : GovernanceReport × Governance}
    (granted : governance.Granted request done) : done.2.InOrder := by
  cases granted with
  | @setMediator caller mediator chain hmediator =>
    exact { inOrder with mediators := Mediators.nonzero_insert inOrder.mediators hmediator chain }
  | setPolicies hupdate => exact { inOrder with policies := inOrder.policies.update hupdate }
  | setPolicyColumns hupdate =>
    obtain ⟨entries, -, hentries⟩ := (AllowList.updateColumns_eq_ok_iff _ _ _).mp hupdate
    exact { inOrder with policies := inOrder.policies.update hentries }
  | @setRoute caller entrypoint destination hentrypoint =>
    refine { inOrder with entrypoints := fun other leading h => ?_ }
    rw [OrderedMap.find?_insert] at h
    split at h
    · rename_i hsame
      exact hsame ▸ hentrypoint
    · exact inOrder.entrypoints other leading h
  | handOver => exact inOrder.handedOver _ _ _
  | handOverTogether hleft => exact inOrder.handedOver _ _ _

/-- Every request, granted or not, keeps a governance in order. -/
theorem InOrder.after {governance : Governance} (inOrder : governance.InOrder)
    (request : GovernanceRequest) : (governance.after request).InOrder :=
  holds_after inOrder fun _ granted => inOrder.granted granted

theorem InOrder.run {governance : Governance} (inOrder : governance.InOrder)
    (requests : List GovernanceRequest) : (governance.run requests).InOrder := by
  induction requests generalizing governance with
  | nil => exact inOrder
  | cons request rest ih => exact ih (inOrder.after request)

/-- Whatever was asked of a governance that began with one admin: it has an admin, every role that
it keeps has a holder, the zero address is neither a mediator nor an entrypoint, and the calls that
it says something of, ever said something of or allows have neither a zero target nor a zero
selector nor chain zero. -/
theorem always_in_order (admin : Address) (requests : List GovernanceRequest) :
    let governance := (create admin).run requests
    0 < governance.roles.holderCount .admin ∧
    (∀ entry ∈ governance.roles.entries, 0 < entry.2.size) ∧
    (∀ entry ∈ governance.mediators.entries, entry.2 ≠ FixedBytes.zero) ∧
    (∀ entry ∈ governance.routes.entries, entry.1 ≠ FixedBytes.zero) ∧
    (∀ entry ∈ governance.policies.settings.entries, entry.1.Proper) ∧
    (∀ change ∈ governance.policies.history, change.key.Proper) ∧
    (∀ key, governance.policies.allows key = true → key.Proper) := by
  intro governance
  have inOrder : governance.InOrder := (inOrder_create admin).run requests
  refine ⟨(governance.roles.holderCount_pos_iff .admin).mpr inOrder.administered,
    fun entry hmem => ?_, fun entry hmem => ?_, fun entry hmem => ?_, fun entry hmem => ?_,
    inOrder.policies.history, fun key hallows => ?_⟩
  · have hfind := (governance.roles.find?_eq_some_iff entry.1 entry.2).mpr hmem
    exact Authority.size_pos_of_peopled inOrder.peopled hfind
  · have hfind := (governance.mediators.find?_eq_some_iff entry.1 entry.2).mpr hmem
    exact FixedBytes.isZero_eq_false_iff.mp (inOrder.mediators entry.1 entry.2 hfind)
  · have hfind := (governance.routes.find?_eq_some_iff entry.1 entry.2).mpr hmem
    exact FixedBytes.isZero_eq_false_iff.mp (inOrder.entrypoints entry.1 entry.2 hfind)
  · have hfind := (governance.policies.settings.find?_eq_some_iff entry.1 entry.2).mpr hmem
    exact inOrder.policies.settings entry.1 entry.2 hfind
  · -- a call that is allowed is one that something is said of
    cases hlookup : governance.policies.lookup key with
    | none => simp [AllowList.allows, hlookup] at hallows
    | some allowed => exact inOrder.policies.settings key allowed hlookup

end Governance

end GovernanceRelay
