import GovernanceRelay.Proofs.Authority

/-!
# The plan of a handover and its effect

Of a list of roles a handover takes no notice but which roles are in it: each of them is taken from
the old account once, in the order of roles, and then given to the new one in the same order
(`Handover.plan_eq_plan_iff`). Within each half the steps are about different roles and do not get
in each other's way, so how many of them change something can be read off the table that the half
begins with (`Authority.changeCount_of_apart`). In the end every listed role is held by the new
account and by those who held it before, but for the old account
(`Authority.handover_plan_and_effect`).
-/

set_option autoImplicit false

namespace GovernanceRelay

namespace Handover

variable (old new : Address)

/-- The distinct roles of a list stand in the order of all roles, each once. -/
theorem distinctRoles_sublist (roles : List Role) :
    (distinctRoles roles).Sublist [.admin, .proposer, .executor, .canceller] :=
  List.filter_sublist

theorem nodup_distinctRoles (roles : List Role) : (distinctRoles roles).Nodup :=
  (distinctRoles_sublist roles).nodup (by decide)

/-- Lists of the same roles have the same distinct roles. -/
theorem distinctRoles_congr {roles others : List Role}
    (same : ∀ role, role ∈ others ↔ role ∈ roles) : distinctRoles others = distinctRoles roles := by
  apply List.filter_congr
  intro role _
  exact decide_eq_decide.mpr (same role)

/-- A plan takes from the old account exactly the roles that are listed. -/
theorem revoke_mem_plan_iff (roles : List Role) (role : Role) :
    RoleStep.revoke role old ∈ plan old new roles ↔ role ∈ roles := by
  rw [plan, List.mem_append, ← Authority.mem_distinctRoles roles role]
  constructor
  · rintro (hmem | hmem)
    · obtain ⟨listed, hlisted, heq⟩ := List.mem_map.mp hmem
      cases heq
      exact hlisted
    · -- the second half only gives
      obtain ⟨listed, -, heq⟩ := List.mem_map.mp hmem
      cases heq
  · intro hmem
    exact .inl (List.mem_map_of_mem hmem)

/-- Plans between the same accounts are the same exactly if they are for the same roles. -/
theorem plan_eq_plan_iff (roles others : List Role) :
    plan old new others = plan old new roles ↔ ∀ role, role ∈ others ↔ role ∈ roles := by
  constructor
  · intro heq role
    rw [← revoke_mem_plan_iff old new others, heq, revoke_mem_plan_iff]
  · intro same
    rw [plan, plan, distinctRoles_congr same]

end Handover

namespace Authority

variable (table : Authority)

/-! ## How many steps change something -/

theorem holds_congr {table other : Authority} {role : Role}
    (same : other.find? role = table.find? role) (account : Address) :
    other.holds role account = table.holds role account := by
  rw [holds, holds, same]

/-- Whether a step would change anything is decided by the holders of its role. -/
theorem changes_congr {table other : Authority} {step : RoleStep}
    (same : other.find? step.role = table.find? step.role) :
    other.changes step = table.changes step := by
  cases step with
  | grant role account => exact congrArg not (holds_congr same account)
  | revoke role account => exact holds_congr same account

theorem changeCount_append (steps more : List RoleStep) :
    table.changeCount (steps ++ more) =
      table.changeCount steps + (table.applyAll steps).changeCount more := by
  induction steps generalizing table with
  | nil => exact (Nat.zero_add _).symm
  | cons step rest ih =>
    rw [List.cons_append, changeCount, changeCount, ih, Nat.add_assoc]
    rfl

/-- Steps about different roles change something exactly if they would do so at first. -/
theorem changeCount_of_apart {steps : List RoleStep}
    (apart : steps.Pairwise fun first second => first.role ≠ second.role) :
    table.changeCount steps = steps.countP table.changes := by
  -- the rest is counted on the table that the first step leaves
  induction steps generalizing table with
  | nil => rfl
  | cons step rest ih =>
    obtain ⟨hstep, hrest⟩ := List.pairwise_cons.mp apart
    -- the first step leaves the roles of the others alone
    have hsame : ∀ other ∈ rest, (table.apply step).changes other = table.changes other := by
      intro other hmem
      apply changes_congr
      exact table.find?_apply_of_ne (hstep other hmem).symm
    have hcount : rest.countP (table.apply step).changes = rest.countP table.changes := by
      apply List.countP_congr
      intro other hmem
      rw [hsame other hmem]
    rw [changeCount, ih (table.apply step) hrest, hcount, List.countP_cons, Nat.add_comm]

/-- Steps of one kind about the distinct roles of a list are about different roles. -/
theorem apart_distinctRoles (roles : List Role) {toStep : Role → RoleStep}
    (about : ∀ role, (toStep role).role = role) :
    ((Handover.distinctRoles roles).map toStep).Pairwise
      fun first second => first.role ≠ second.role := by
  rw [List.pairwise_map]
  apply (Handover.nodup_distinctRoles roles).imp
  intro first second hne
  rwa [about, about]

/-- A handover changes something with every listed role that the old account holds, and with every
one that is left without the new account as a holder when the old account has lost it. -/
theorem changeCount_handover (old new : Address) (roles : List Role) :
    table.changeCount (Handover.plan old new roles) =
      (Handover.distinctRoles roles).countP (fun role => decide (old ∈ table.holders role)) +
        (Handover.distinctRoles roles).countP
          fun role => decide (¬ (new ∈ table.holders role ∧ new ≠ old)) := by
  rw [Handover.plan, changeCount_append,
    changeCount_of_apart _ (apart_distinctRoles roles fun _ => rfl),
    changeCount_of_apart _ (apart_distinctRoles roles fun _ => rfl), List.countP_map,
    List.countP_map]
  congr 1
  · apply List.countP_congr
    intro role _
    simp [changes, mem_holders_iff]
  · -- the second half meets a table in which the old account has lost the listed roles
    apply List.countP_congr
    intro role hmem
    have hleft := table.holds_revokes (Handover.distinctRoles roles) old role new
    simp only [hmem, true_and] at hleft
    rw [decide_eq_true_iff, mem_holders_iff, and_comm (b := new ≠ old), ← hleft]
    simp [changes]

/-! ## The effect of a handover -/

/-- The plan of a handover depends only on which roles are listed; it takes each of them from the
old account once, in the order of roles, and then gives each to the new account in this order. When
it is carried out, a listed role is held by the new account and by the holders before but for the
old account, and the other roles are held as before; and it is told how many listed roles the old
account held, and how many of them the new one, but for what it lost as the old one, did not. -/
theorem handover_plan_and_effect (old new : Address) (roles : List Role) :
    let plan := Handover.plan old new roles
    (∀ others, Handover.plan old new others = plan ↔ ∀ role, role ∈ others ↔ role ∈ roles) ∧
    (∀ role ∈ roles, ∀ account, account ∈ (table.applyAll plan).holders role ↔
      account = new ∨ (account ∈ table.holders role ∧ account ≠ old)) ∧
    (∀ role, role ∉ roles → (table.applyAll plan).holders role = table.holders role) ∧
    ∃ listed : List Role, (∀ role, role ∈ listed ↔ role ∈ roles) ∧
      listed.Sublist [.admin, .proposer, .executor, .canceller] ∧
      plan = listed.map (RoleStep.revoke · old) ++ listed.map (RoleStep.grant · new) ∧
      table.changeCount plan =
        listed.countP (fun role => decide (old ∈ table.holders role)) +
          listed.countP fun role => decide (¬ (new ∈ table.holders role ∧ new ≠ old)) := by
  intro plan
  refine ⟨?which, ?listed, ?others, Handover.distinctRoles roles, mem_distinctRoles roles,
    Handover.distinctRoles_sublist roles, rfl, table.changeCount_handover old new roles⟩
  case which =>
    intro others
    exact Handover.plan_eq_plan_iff old new roles others
  case listed =>
    intro role hrole account
    rw [mem_holders_iff, mem_holders_iff, holds_handover]
    simp only [hrole, true_and]
    rw [and_comm]
  case others =>
    intro role hrole
    rw [holders, table.find?_handover_of_not_mem old new hrole, ← holders]

end Authority

end GovernanceRelay
