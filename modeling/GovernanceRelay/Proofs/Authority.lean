import GovernanceRelay.Handover
import GovernanceRelay.Proofs.OrderedMap

/-!
# What steps do to the holders of roles

Each step is described by who holds what afterwards (`Authority.holds_grant`,
`Authority.holds_revoke`), and it leaves the other roles alone (`Authority.find?_apply_of_ne`). A
handover thus makes the new account a holder of every role in the list, takes these roles from the
old account unless it is the new one, and leaves everything else as it was
(`Authority.holds_handover`).
-/

set_option autoImplicit false

namespace GovernanceRelay

namespace Authority

variable (table : Authority)

/-- The table keeps no role without a holder. -/
def Peopled : Prop :=
  ∀ role set, table.find? role = some set → ∃ account, table.holds role account = true

/-- The table lists exactly the roles that are held. -/
theorem mem_assignments_iff (role : Role) (account : Address) :
    (role, account) ∈ table.assignments ↔ table.holds role account = true := by
  simp only [assignments, List.mem_flatMap, List.mem_map, OrderedMap.mem_keys_iff]
  constructor
  · rintro ⟨⟨_, set⟩, hentry, _, hcontains, heq⟩
    obtain ⟨rfl, rfl⟩ := Prod.mk.inj heq
    rw [holds, (table.find?_eq_some_iff _ _).mpr hentry]
    exact hcontains
  · intro hholds
    cases hset : table.find? role with
    | none => simp [holds, hset] at hholds
    | some set =>
      rw [holds, hset] at hholds
      exact ⟨(role, set), (table.find?_eq_some_iff _ _).mp hset, account, hholds, rfl⟩

theorem mem_holders_iff (role : Role) (account : Address) :
    account ∈ table.holders role ↔ table.holds role account = true := by
  rw [holders, holds]
  cases table.find? role with
  | none => simp
  | some set => exact set.mem_keys_iff account

theorem holds_iff_of_holders_eq {role : Role} {account : Address}
    (alone : table.holders role = [account]) (other : Address) :
    table.holds role other = true ↔ other = account := by
  rw [← mem_holders_iff, alone, List.mem_singleton]

theorem nodup_holders (role : Role) : (table.holders role).Nodup := by
  rw [holders]
  cases table.find? role with
  | none => exact List.nodup_nil
  | some set => exact set.nodup_keys

theorem holds_grant (role other : Role) (account holder : Address) :
    (table.grant role account).holds other holder =
      (decide (other = role ∧ holder = account) || table.holds other holder) := by
  rw [grant, holds, OrderedMap.find?_insert]
  by_cases hrole : other = role
  · subst hrole
    rw [if_pos rfl, holds]
    simp only [OrderedMap.contains, OrderedMap.find?_insert]
    by_cases haccount : holder = account
    · simp [haccount]
    · cases table.find? other <;> simp [haccount]
  · simp [hrole, holds]

theorem holds_revoke (role other : Role) (account holder : Address) :
    (table.revoke role account).holds other holder =
      (!decide (other = role ∧ holder = account) && table.holds other holder) := by
  rw [revoke]
  cases hset : table.find? role with
  | none =>
    by_cases hrole : other = role
    · simp [hrole, holds, hset]
    · simp [hrole]
  | some set =>
    rw [holds, OrderedMap.find?_insert]
    by_cases hrole : other = role
    · subst hrole
      rw [if_pos rfl, holds, hset]
      simp only [OrderedMap.contains, OrderedMap.find?_erase]
      by_cases haccount : holder = account <;> simp [haccount]
    · simp [hrole, holds]

theorem peopled_empty : Peopled OrderedMap.empty := by
  intro role set hfind
  cases hfind

/-- Whoever is granted a role holds it, so no role is without a holder for it. -/
theorem Peopled.grant {table : Authority} (peopled : table.Peopled) (role : Role)
    (account : Address) : (table.grant role account).Peopled := by
  intro other set hfind
  rw [Authority.grant, OrderedMap.find?_insert] at hfind
  split at hfind
  · rename_i hrole
    exact ⟨account, by simp [holds_grant, hrole]⟩
  · obtain ⟨holder, hholder⟩ := peopled other set hfind
    exact ⟨holder, by simp [holds_grant, hholder]⟩

/-- Grant roles one after the other. -/
def grantAll (assigned : List (Role × Address)) : Authority :=
  assigned.foldl (fun table entry => table.grant entry.1 entry.2) table

theorem holds_grantAll (assigned : List (Role × Address)) (role : Role) (account : Address) :
    (table.grantAll assigned).holds role account = true ↔
      (role, account) ∈ assigned ∨ table.holds role account = true := by
  induction assigned generalizing table with
  | nil => simp [grantAll]
  | cons entry rest ih =>
    rw [grantAll, List.foldl_cons, ← grantAll, ih, holds_grant, List.mem_cons, Prod.ext_iff]
    simp only [Bool.or_eq_true, decide_eq_true_eq]
    grind

theorem Peopled.grantAll {table : Authority} (peopled : table.Peopled)
    (assigned : List (Role × Address)) : (table.grantAll assigned).Peopled := by
  induction assigned generalizing table with
  | nil => exact peopled
  | cons entry rest ih => exact ih (peopled.grant entry.1 entry.2)

/-- Where no role is without a holder, it is enough to know who holds which role. -/
theorem eq_of_holds {left right : Authority} (peopled_left : left.Peopled)
    (peopled_right : right.Peopled)
    (same : ∀ role account, left.holds role account = right.holds role account) :
    left = right := by
  refine OrderedMap.ext_find? fun role => ?_
  have hsame := same role
  cases hleft : left.find? role with
  | none =>
    cases hright : right.find? role with
    | none => rfl
    | some set =>
      -- a holder in the one table is one in the other
      obtain ⟨account, hholds⟩ := peopled_right role set hright
      rw [← hsame account, holds, hleft] at hholds
      cases hholds
  | some set =>
    cases hright : right.find? role with
    | none =>
      obtain ⟨account, hholds⟩ := peopled_left role set hleft
      rw [hsame account, holds, hright] at hholds
      cases hholds
    | some other =>
      refine congrArg some (OrderedSet.ext_contains fun account => ?_)
      have haccount := hsame account
      rwa [holds, holds, hleft, hright] at haccount

/-- A step leaves the other roles as they were. -/
theorem find?_apply_of_ne {step : RoleStep} {role : Role} (hne : role ≠ step.role) :
    (table.apply step).find? role = table.find? role := by
  cases step with
  | grant granted account =>
    exact (OrderedMap.find?_insert _ _ _ _).trans (if_neg hne)
  | revoke revoked account =>
    rw [apply, revoke]
    cases table.find? revoked with
    | none => rfl
    | some set => exact (OrderedMap.find?_insert _ _ _ _).trans (if_neg hne)

/-- Steps leave the roles that none of them is about as they were. -/
theorem find?_applyAll_of_ne {steps : List RoleStep} {role : Role}
    (hne : ∀ step ∈ steps, role ≠ step.role) :
    (table.applyAll steps).find? role = table.find? role := by
  induction steps generalizing table with
  | nil => rfl
  | cons step rest ih =>
    obtain ⟨hstep, hrest⟩ := List.forall_mem_cons.mp hne
    exact (ih (table.apply step) hrest).trans (table.find?_apply_of_ne hstep)

theorem applyAll_append (steps more : List RoleStep) :
    table.applyAll (steps ++ more) = (table.applyAll steps).applyAll more :=
  List.foldl_append

theorem holds_grants (roles : List Role) (account : Address) (role : Role) (holder : Address) :
    (table.applyAll (roles.map (RoleStep.grant · account))).holds role holder = true ↔
      (role ∈ roles ∧ holder = account) ∨ table.holds role holder = true := by
  have hsame : table.applyAll (roles.map (RoleStep.grant · account)) =
      table.grantAll (roles.map (·, account)) := by
    rw [applyAll, grantAll, List.foldl_map, List.foldl_map]
    rfl
  rw [hsame, holds_grantAll, List.mem_map]
  simp only [Prod.mk.injEq]
  grind

/-- What is taken is not held afterwards, and everything else stays. -/
theorem holds_revokeAll (taken : List (Role × Address)) (role : Role) (holder : Address) :
    (table.applyAll (taken.map fun entry => .revoke entry.1 entry.2)).holds role holder = true ↔
      (role, holder) ∉ taken ∧ table.holds role holder = true := by
  induction taken generalizing table with
  | nil => simp [applyAll]
  | cons entry rest ih =>
    rw [List.map_cons, applyAll, List.foldl_cons, ← applyAll, ih, apply, holds_revoke,
      List.mem_cons, Prod.ext_iff]
    simp only [Bool.and_eq_true, Bool.not_eq_true', decide_eq_false_iff_not]
    grind

theorem holds_revokes (roles : List Role) (account : Address) (role : Role) (holder : Address) :
    (table.applyAll (roles.map (RoleStep.revoke · account))).holds role holder = true ↔
      ¬ (role ∈ roles ∧ holder = account) ∧ table.holds role holder = true := by
  have h := table.holds_revokeAll (roles.map (·, account)) role holder
  rw [List.map_map] at h
  refine h.trans (and_congr_left fun _ => not_congr ?_)
  simp only [List.mem_map, Prod.mk.injEq]
  grind

theorem holds_dismissals (dismissed : Role) (accounts : List Address) (role : Role)
    (holder : Address) :
    (table.applyAll (accounts.map (RoleStep.revoke dismissed ·))).holds role holder = true ↔
      ¬ (role = dismissed ∧ holder ∈ accounts) ∧ table.holds role holder = true := by
  have h := table.holds_revokeAll (accounts.map (dismissed, ·)) role holder
  rw [List.map_map] at h
  refine h.trans (and_congr_left fun _ => not_congr ?_)
  simp only [List.mem_map, Prod.mk.injEq]
  grind

theorem mem_distinctRoles (roles : List Role) (role : Role) :
    role ∈ Handover.distinctRoles roles ↔ role ∈ roles := by
  simp [Handover.distinctRoles, Role.mem_all]

/-- A handover gives the listed roles to the new account and takes them from the old one, unless the
two are the same; whoever else holds a role goes on to hold it. -/
theorem holds_handover (old new : Address) (roles : List Role) (role : Role) (holder : Address) :
    (table.applyAll (Handover.plan old new roles)).holds role holder = true ↔
      (role ∈ roles ∧ holder = new) ∨
        (¬ (role ∈ roles ∧ holder = old) ∧ table.holds role holder = true) := by
  rw [Handover.plan, applyAll_append, holds_grants, holds_revokes, mem_distinctRoles]

/-- A handover leaves the roles that are not listed as they were. -/
theorem find?_handover_of_not_mem (old new : Address) {roles : List Role} {role : Role}
    (hrole : role ∉ roles) :
    (table.applyAll (Handover.plan old new roles)).find? role = table.find? role := by
  refine table.find?_applyAll_of_ne fun step hstep heq => hrole ?_
  rw [← mem_distinctRoles, heq]
  rcases List.mem_append.mp hstep with hmem | hmem <;>
    · obtain ⟨listed, hlisted, rfl⟩ := List.mem_map.mp hmem
      exact hlisted

theorem holderCount_pos_iff (role : Role) :
    0 < table.holderCount role ↔ ∃ account, table.holds role account = true := by
  simp only [holderCount, holds]
  cases table.find? role with
  | none => simp
  | some set => exact set.size_pos_iff

theorem holderCount_eq_zero_iff (role : Role) :
    table.holderCount role = 0 ↔ ∀ account, ¬ table.holds role account = true := by
  rw [← not_exists, ← holderCount_pos_iff, Nat.pos_iff_ne_zero, Decidable.not_not]

end Authority

end GovernanceRelay
