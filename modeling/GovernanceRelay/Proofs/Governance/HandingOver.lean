import GovernanceRelay.Proofs.Governance.Invariant

/-!
# Handing over in one step or in many

Roles are handed over in one step only if an admin is left, while nothing of the kind is asked of a
handover step by step. The two come to the same all the same
(`Governance.handOverTogether_eq_handOver`): only an admin gets as far as the steps, and afterwards
the new account is an admin if the admin role was handed over, and the caller if it was not. The
refusal is for steps that are no handover. Whatever table they begin with, some steps would leave it
without an admin (`Authority.holderCount_dismissals`), and then none of them is applied.
-/

set_option autoImplicit false

namespace GovernanceRelay

namespace Authority

variable (table : Authority)

/-- The table that is left when steps are to be applied together. -/
def afterTogether (steps : List RoleStep) : Authority :=
  match table.applyTogether steps with
  | .ok (_, changed) => changed
  | .error _ => table

/-- Steps that would leave no admin are refused, and no others. -/
theorem applyTogether_eq_error_iff (steps : List RoleStep) (error : HandoverError) :
    table.applyTogether steps = .error error ↔
      (table.applyAll steps).holderCount .admin = 0 ∧ error = .adminLockout := by
  rw [applyTogether]
  split
  · rename_i hvacant
    simp [hvacant, eq_comm]
  · rename_i held
    simp [held]

theorem afterTogether_of_refused {steps : List RoleStep} {error : HandoverError}
    (h : table.applyTogether steps = .error error) : table.afterTogether steps = table := by
  rw [afterTogether, h]

/-- A role that is taken from all of its holders has none. -/
theorem holderCount_dismissals (role : Role) :
    (table.applyAll ((table.holders role).map (RoleStep.revoke role ·))).holderCount role = 0 := by
  apply Nat.eq_zero_of_not_pos
  intro hheld
  obtain ⟨account, haccount⟩ := (holderCount_pos_iff _ role).mp hheld
  obtain ⟨hkept, hholds⟩ := (table.holds_dismissals role _ role account).mp haccount
  exact hkept ⟨rfl, (table.mem_holders_iff role account).mpr hholds⟩

end Authority

namespace Governance

section Handover

variable (governance : Governance) (caller old new : Address) (roles : List Role)

/-- After a handover that an admin asks for there is an admin. -/
theorem holderCount_admin_handedOver {governance : Governance} {caller : Address}
    (hadmin : governance.roles.holds .admin caller = true) :
    (governance.handedOver old new roles).roles.holderCount .admin ≠ 0 := by
  have hleft := Authority.exists_holds_handover old new roles ⟨caller, hadmin⟩
  apply Nat.ne_of_gt
  exact (Authority.holderCount_pos_iff _ _).mpr hleft

/-- A handover step by step is refused only to those who are no admins. -/
theorem handOver_eq :
    governance.handOver caller old new roles =
      if governance.roles.holds .admin caller then
        .ok (Handover.plan old new roles, governance.handedOver old new roles)
      else .error (.unauthorized caller) := by
  rw [handOver, unauthorized?]
  cases governance.roles.holds .admin caller with
  | false => rfl
  | true => rfl

/-- It makes no difference whether a handover is made in one step. -/
theorem handOverTogether_eq_handOver :
    governance.handOverTogether caller old new roles =
      governance.handOver caller old new roles := by
  cases hadmin : governance.roles.holds .admin caller with
  | false =>
    rw [handOver_eq, hadmin, handOverTogether, unauthorized?, hadmin]
    rfl
  | true =>
    -- the admin who is left stands against the refusal
    have htogether := (governance.handOverTogether_eq_ok_iff caller old new roles _).mpr
      ⟨hadmin, holderCount_admin_handedOver old new roles hadmin, rfl⟩
    rw [htogether, handOver_eq, hadmin]
    rfl

end Handover

/-- A handover in one step is answered as one step by step is and leaves the same governance: an
admin is told the plan, anybody else is refused as unauthorized, and nobody for want of an admin
afterwards. Steps in general that are to be applied together are refused for that, and there are
such steps whatever the table; then the table stays as it was. -/
theorem one_step_or_many (governance : Governance) (caller old new : Address)
    (roles : List Role) :
    governance.handOverTogether caller old new roles =
      governance.handOver caller old new roles ∧
    governance.after (.handOverTogether caller old new roles) =
      governance.after (.handOver caller old new roles) ∧
    governance.handOver caller old new roles =
      (if governance.roles.holds .admin caller then
        .ok (Handover.plan old new roles, governance.handedOver old new roles)
      else .error (.unauthorized caller)) ∧
    governance.handOverTogether caller old new roles ≠ .error (.handover .adminLockout) ∧
    ∀ table : Authority,
      (∃ steps, table.applyTogether steps = .error .adminLockout) ∧
      ∀ steps,
        (table.applyTogether steps = .error .adminLockout ↔
          (table.applyAll steps).holderCount .admin = 0) ∧
        (table.applyTogether steps = .error .adminLockout → table.afterTogether steps = table) := by
  have hsame := governance.handOverTogether_eq_handOver caller old new roles
  have hstepwise := governance.handOver_eq caller old new roles
  refine ⟨hsame, ?after, hstepwise, ?never, ?steps⟩
  case after =>
    rw [after, after, answer, answer, hsame]
  case never =>
    intro hrefused
    rw [hsame, hstepwise] at hrefused
    split at hrefused
    · cases hrefused
    · cases hrefused
  case steps =>
    intro table
    constructor
    · refine ⟨(table.holders .admin).map (RoleStep.revoke .admin ·), ?_⟩
      apply (table.applyTogether_eq_error_iff _ _).mpr
      exact ⟨table.holderCount_dismissals .admin, rfl⟩
    · intro steps
      refine ⟨?_, table.afterTogether_of_refused⟩
      rw [table.applyTogether_eq_error_iff]
      exact and_iff_left rfl

end Governance

end GovernanceRelay
