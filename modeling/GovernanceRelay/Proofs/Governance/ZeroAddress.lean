import GovernanceRelay.Proofs.Governance.Admins
import GovernanceRelay.Proofs.Governance.HandingOver
import GovernanceRelay.Proofs.Handover.Gaps

/-!
# What the zero address may hold

The zero address is refused as a mediator, as an entrypoint and as a target of the allow-list, but
nothing is asked of the account that a handover gives roles to. Through the requests of a run an
account holds a role exactly since an admin handed it over to the account, unless it held the role at
first, and as long as no admin hands it over from the account to another one
(`Governance.holds_run_iff`). This goes for the zero address as well
(`Governance.zero_holds_iff`): an admin who is alone may make it the only admin, in one step or in
many, and then the governance stays as it is, whatever anybody else asks for.
-/

set_option autoImplicit false

namespace GovernanceRelay

namespace GovernanceRequest

variable (role : Role) (account : Address)

/-- The request is to hand a role over to an account. -/
def HandsTo : GovernanceRequest → Prop
  | .handOver _ _ new roles => role ∈ roles ∧ account = new
  | .handOverTogether _ _ new roles => role ∈ roles ∧ account = new
  | _ => False

/-- The request is to hand a role over from an account to another one. -/
def TakesFrom : GovernanceRequest → Prop
  | .handOver _ old new roles => role ∈ roles ∧ account = old ∧ account ≠ new
  | .handOverTogether _ old new roles => role ∈ roles ∧ account = old ∧ account ≠ new
  | _ => False

theorem not_handover_of_part {request : GovernanceRequest} (other : request.part ≠ .roles) :
    ¬ request.HandsTo role account ∧ ¬ request.TakesFrom role account := by
  cases request with
  | handOver => exact absurd rfl other
  | handOverTogether => exact absurd rfl other
  | _ => exact ⟨id, id⟩

end GovernanceRequest

namespace Governance

/-! ## One request -/

section Request

variable {governance : Governance} {role : Role} {account : Address}

theorem roles_after_of_part {request : GovernanceRequest} (other : request.part ≠ .roles) :
    (governance.after request).roles = governance.roles :=
  holds_after (P := fun changed => changed.roles = governance.roles) rfl
    fun _ granted => granted.agreeBut.roles other

theorem holds_handedOver_iff (old new : Address) (roles : List Role) :
    (governance.handedOver old new roles).roles.holds role account = true ↔
      (role ∈ roles ∧ account = new) ∨
        (¬ (role ∈ roles ∧ account = old ∧ account ≠ new) ∧
          governance.roles.holds role account = true) := by
  rw [handedOver, Authority.holds_handover]
  by_cases hnew : account = new
  · by_cases hrole : role ∈ roles <;> simp [hnew, hrole]
  · simp [hnew]

/-- After a request an account holds a role if an admin asks to hand it over to the account, or if it
held the role before and no admin asks to hand it over from the account to another one. -/
theorem holds_after_iff (request : GovernanceRequest) :
    (governance.after request).roles.holds role account = true ↔
      (governance.roles.holds .admin request.caller = true ∧ request.HandsTo role account) ∨
        (¬ (governance.roles.holds .admin request.caller = true ∧ request.TakesFrom role account) ∧
          governance.roles.holds role account = true) := by
  cases hadmin : governance.roles.holds .admin request.caller with
  | false =>
    rw [after_of_refused (answer_of_not_admin hadmin)]
    simp
  | true =>
    rw [eq_self, true_and, true_and]
    by_cases hpart : request.part = .roles
    · cases request with
      | handOver caller old new roles =>
        rw [after_of_granted hadmin .handOver]
        exact holds_handedOver_iff old new roles
      | handOverTogether caller old new roles =>
        -- the admin who asks stands against the refusal
        have hleft := holderCount_admin_handedOver old new roles hadmin
        rw [after_of_granted hadmin (.handOverTogether hleft)]
        exact holds_handedOver_iff old new roles
      | _ => cases hpart
    · obtain ⟨hgives, htakes⟩ := GovernanceRequest.not_handover_of_part role account hpart
      rw [roles_after_of_part hpart]
      simp [hgives, htakes]

end Request

/-! ## A run of requests -/

/-- An admin hands a role over to an account. -/
def Gives (role : Role) (account : Address) (moment : Moment Governance GovernanceRequest) : Prop :=
  byAdmin moment = true ∧ moment.event.HandsTo role account

/-- An admin hands a role over from an account to another one. -/
def Takes (role : Role) (account : Address) (moment : Moment Governance GovernanceRequest) : Prop :=
  byAdmin moment = true ∧ moment.event.TakesFrom role account

/-- After a run an account holds a role if an admin has handed it over to the account, or if it held
the role at first, and no admin has handed it over from the account to another one since. -/
theorem holds_run_iff (governance : Governance) (requests : List GovernanceRequest) (role : Role)
    (account : Address) :
    (governance.run requests).roles.holds role account = true ↔
      (∃ past moment later, course after governance requests = past ++ moment :: later ∧
        Gives role account moment ∧ ∀ next ∈ later, ¬ Takes role account next) ∨
      ((∀ moment ∈ course after governance requests, ¬ Takes role account moment) ∧
        governance.roles.holds role account = true) := by
  induction requests generalizing governance with
  | nil => simp [run, course]
  | cons request rest ih =>
    let first : Moment Governance GovernanceRequest :=
      ⟨governance, request, governance.after request⟩
    have hcourse : course after governance (request :: rest) =
        first :: course after (governance.after request) rest := rfl
    have hafter : (governance.after request).roles.holds role account = true ↔
        Gives role account first ∨
          (¬ Takes role account first ∧ governance.roles.holds role account = true) :=
      holds_after_iff request
    change ((governance.after request).run rest).roles.holds role account = true ↔ _
    rw [ih, hcourse, hafter, List.forall_mem_cons]
    constructor
    · rintro (⟨past, moment, later, hsplit, hgives, hlater⟩ | ⟨hrest, hgives | ⟨hfirst, hholds⟩⟩)
      · exact .inl ⟨first :: past, moment, later, congrArg _ hsplit, hgives, hlater⟩
      · exact .inl ⟨[], first, _, rfl, hgives, hrest⟩
      · exact .inr ⟨⟨hfirst, hrest⟩, hholds⟩
    · rintro (⟨past, moment, later, hsplit, hgives, hlater⟩ | ⟨⟨hfirst, hrest⟩, hholds⟩)
      · cases past with
        | nil =>
          -- the handover is the first request, so nothing is taken in all others
          obtain ⟨rfl, rfl⟩ := List.cons.inj hsplit
          exact .inr ⟨hlater, .inl hgives⟩
        | cons _ past =>
          obtain ⟨-, htail⟩ := List.cons.inj hsplit
          exact .inl ⟨past, moment, later, htail, hgives, hlater⟩
      · exact .inr ⟨hrest, .inr ⟨hfirst, hholds⟩⟩

/-! ## The zero address -/

/-- An account that was given nothing is without a role. -/
theorem not_holds_of_never_given {governance : Governance} {requests : List GovernanceRequest}
    {role : Role} {account : Address}
    (never : ∀ moment ∈ course after governance requests, ¬ Gives role account moment)
    (start : governance.roles.holds role account = false) :
    (governance.run requests).roles.holds role account = false := by
  apply eq_false_of_ne_true
  intro hholds
  rcases (holds_run_iff governance requests role account).mp hholds with
    ⟨past, moment, later, hsplit, hgives, -⟩ | ⟨-, hheld⟩
  · exact never moment (hsplit ▸ List.mem_append_right _ List.mem_cons_self) hgives
  · rw [start] at hheld
    cases hheld

/-- Whoever is the only admin makes another account the only admin by handing that role over. -/
theorem holders_handedOver_alone {governance : Governance} {caller : Address}
    (alone : governance.roles.holders .admin = [caller]) (new : Address) {roles : List Role}
    (hadmin : .admin ∈ roles) :
    (governance.handedOver caller new roles).roles.holders .admin = [new] := by
  have hholds := governance.roles.holds_iff_of_holders_eq alone
  refine (Authority.holders_eq_singleton_iff _ _ _).mpr ⟨?_, fun other hother => ?_⟩
  · exact (Authority.holderCount_pos_iff _ _).mpr
      ⟨new, (holds_handedOver_iff _ _ _).mpr (.inl ⟨hadmin, rfl⟩)⟩
  · rcases (holds_handedOver_iff _ _ _).mp hother with ⟨-, hnew⟩ | ⟨hkept, hheld⟩
    · exact hnew
    · -- only the caller was an admin, and lost the role unless it is the new account
      by_contra hne
      exact hkept ⟨hadmin, (hholds other).mp hheld, hne⟩

/-- Where one account is the only admin, the requests of all others change nothing. -/
theorem run_of_other_callers {governance : Governance} {account : Address}
    (alone : governance.roles.holders .admin = [account]) {requests : List GovernanceRequest}
    (others : ∀ request ∈ requests, request.caller ≠ account) :
    governance.run requests = governance := by
  have hholds := governance.roles.holds_iff_of_holders_eq alone
  induction requests with
  | nil => rfl
  | cons request rest ih =>
    obtain ⟨hcaller, hrest⟩ := List.forall_mem_cons.mp others
    have hrefused : governance.roles.holds .admin request.caller = false :=
      eq_false_of_ne_true fun h => hcaller ((hholds _).mp h)
    rw [run, List.foldl_cons, after_of_refused (answer_of_not_admin hrefused)]
    exact ih hrest

/-- Let a governance begin with an admin other than the zero address, and let anybody ask for
anything. The zero address holds a role exactly if an admin has handed it over to the zero address
and no admin has handed it over from there to another account since; so it holds nothing as long as
no admin hands a role over to it. But an admin who is alone may hand the admin role over to it, in
one step as well as step by step, and it is then the only admin; and where it is, the governance
stays as it is, whatever others ask for. -/
theorem zero_holds_iff {admin : Address} (nonzero : admin.isZero = false)
    (requests : List GovernanceRequest) :
    let governance := (create admin).run requests
    let moments := course after (create admin) requests
    (∀ role, governance.roles.holds role FixedBytes.zero = true ↔
      ∃ past moment later, moments = past ++ moment :: later ∧
        Gives role FixedBytes.zero moment ∧ ∀ next ∈ later, ¬ Takes role FixedBytes.zero next) ∧
    ((∀ moment ∈ moments, ∀ role, ¬ Gives role FixedBytes.zero moment) →
      ∀ role, governance.roles.holds role FixedBytes.zero = false) ∧
    (∀ caller roles, governance.roles.holders .admin = [caller] → .admin ∈ roles →
      (governance.after (.handOver caller caller FixedBytes.zero roles)).roles.holders .admin =
          [FixedBytes.zero] ∧
      (governance.after (.handOverTogether caller caller FixedBytes.zero roles)).roles.holders
          .admin = [FixedBytes.zero]) ∧
    (governance.roles.holders .admin = [FixedBytes.zero] →
      ∀ more, (∀ request ∈ more, request.caller ≠ FixedBytes.zero) →
        governance.run more = governance) := by
  intro governance moments
  have start (role : Role) : (create admin).roles.holds role FixedBytes.zero = false := by
    have hne : FixedBytes.zero ≠ admin := Ne.symm (FixedBytes.isZero_eq_false_iff.mp nonzero)
    have hempty : Authority.holds OrderedMap.empty role FixedBytes.zero = false := rfl
    rw [create, Authority.ofAdmin, Authority.holds_grant, hempty]
    simp [hne]
  refine ⟨fun role => ?_, fun never role => ?_, fun caller roles alone hadmin => ?_,
    fun alone more others => run_of_other_callers alone others⟩
  · rw [holds_run_iff, start role]
    simp [moments]
  · exact not_holds_of_never_given (fun moment hmem => never moment hmem role) (start role)
  · have hcaller : governance.roles.holds .admin caller = true :=
      (governance.roles.holds_iff_of_holders_eq alone caller).mpr rfl
    have hleft := holderCount_admin_handedOver caller FixedBytes.zero roles hcaller
    rw [after_of_granted hcaller .handOver, after_of_granted hcaller (.handOverTogether hleft)]
    exact ⟨holders_handedOver_alone alone FixedBytes.zero hadmin,
      holders_handedOver_alone alone FixedBytes.zero hadmin⟩

namespace ZeroRehearsal

/-- The account that is the admin at first. -/
def admin : Address := FixedBytes.replicate 0xad

/-- The admin hands two roles over to the zero address and takes one of them back. -/
def requests : List GovernanceRequest :=
  [.handOver admin admin FixedBytes.zero [.executor, .proposer],
    .setMediator FixedBytes.zero 5 admin,
    .handOverTogether admin FixedBytes.zero admin [.proposer]]

/-- The zero address holds the role that was not taken back. The admin is still the only one, and may
hand that role over to the zero address as well. -/
theorem zero_holds_executor :
    let governance := (create admin).run requests
    admin.isZero = false ∧
      governance.roles.holds .executor FixedBytes.zero = true ∧
      governance.roles.holds .proposer FixedBytes.zero = false ∧
      (governance.after (.handOver admin admin FixedBytes.zero [.admin])).roles.holders .admin =
        [FixedBytes.zero] := by
  intro governance
  have nonzero : admin.isZero = false := by decide +kernel
  obtain ⟨hholds, -, hgiven, -⟩ := zero_holds_iff nonzero requests
  have alone : governance.roles.holders .admin = [admin] := by decide +kernel
  refine ⟨nonzero, (hholds .executor).mpr ⟨[], _, _, rfl, ⟨by decide +kernel, ?_⟩, ?_⟩,
    by decide +kernel, (hgiven admin [.admin] alone List.mem_cons_self).1⟩
  · exact ⟨List.mem_cons_self, rfl⟩
  · intro next hmem htakes
    have hevent := event_mem_of_mem_course hmem
    simp only [List.mem_cons, List.not_mem_nil, or_false] at hevent
    rcases hevent with hevent | hevent
    · have hnothing := htakes.2
      rw [hevent] at hnothing
      exact hnothing
    · -- what is taken back is the other role
      have hother := htakes.2
      rw [hevent] at hother
      exact absurd hother.1 (by decide)

/-- The admin role is handed over to the zero address step by step and in one step, although the
first admin is another account. Then the zero address is the only admin, and nothing that anybody
else asks for changes that. -/
theorem zero_only_admin :
    admin.isZero = false ∧
      ∀ request ∈ [.handOver admin admin FixedBytes.zero [.admin],
          .handOverTogether admin admin FixedBytes.zero [.admin]],
        let governance := (create admin).run [request]
        governance.roles.holds .admin FixedBytes.zero = true ∧
          governance.roles.holders .admin = [FixedBytes.zero] ∧
          ∀ more, (∀ next ∈ more, next.caller ≠ FixedBytes.zero) →
            governance.run more = governance := by
  refine ⟨by decide +kernel, fun request hmem => ?_⟩
  simp only [List.mem_cons, List.not_mem_nil, or_false] at hmem
  have alone : ((create admin).run [request]).roles.holders .admin = [FixedBytes.zero] := by
    rcases hmem with rfl | rfl
    · decide +kernel
    · decide +kernel
  refine ⟨?_, alone, fun more others => run_of_other_callers alone others⟩
  exact (Authority.holds_iff_of_holders_eq _ alone FixedBytes.zero).mpr rfl

end ZeroRehearsal

end Governance

end GovernanceRelay
