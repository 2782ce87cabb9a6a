import Mathlib.Data.Nat.Find
import Mathlib.Order.Bounds.Basic
import GovernanceRelay.Proofs.Handover.Plan

/-!
# Where a role is without a holder

`Handover.gaps` looks only at the role that each step is about, and only at roles that it has not
reported. That is enough: a role loses its last holder only in a step about it, and a role that has
lost its last holder is one that has been reported (`Handover.Known`). So what is reported is, for
every role with a holder at first, the first step after which it has none (`Handover.mem_gaps_iff`),
one gap for each such role and in the order of the steps (`Handover.pairwise_gaps`). Of a handover
these are the listed roles whose only holder is the old account (`Handover.gaps_exact`).
-/

set_option autoImplicit false

namespace GovernanceRelay

/-- Of two gaps the one is of an earlier step than the other, and of another role. -/
inductive HandoverError.Before : HandoverError → HandoverError → Prop
  | gaps {role other : Role} {step later : Nat} :
      role ≠ other → step < later → Before (.gap role step) (.gap other later)

namespace Authority

variable (table : Authority)

/-- A role has one holder alone exactly if it has a holder and nobody else holds it. -/
theorem holders_eq_singleton_iff (role : Role) (account : Address) :
    table.holders role = [account] ↔
      0 < table.holderCount role ∧ ∀ other, table.holds role other = true → other = account := by
  rw [holderCount_pos_iff]
  constructor
  · intro heq
    have hmem := table.holds_iff_of_holders_eq heq
    exact ⟨⟨account, (hmem account).mpr rfl⟩, fun other => (hmem other).mp⟩
  · rintro ⟨⟨holder, hholder⟩, alone⟩
    obtain rfl := alone holder hholder
    apply List.perm_singleton.mp
    apply (List.perm_ext_iff_of_nodup (table.nodup_holders role) (List.pairwise_singleton _ _)).mpr
    intro other
    rw [mem_holders_iff, List.mem_singleton]
    constructor
    · exact alone other
    · rintro rfl
      exact hholder

/-- A step changes the number of holders of its own role only. -/
theorem holderCount_apply_of_ne {step : RoleStep} {role : Role} (hne : role ≠ step.role) :
    (table.apply step).holderCount role = table.holderCount role := by
  rw [holderCount, table.find?_apply_of_ne hne, ← holderCount]

/-- The numbers of steps after which a role is without a holder. -/
def vacancies (steps : List RoleStep) (role : Role) : Set Nat :=
  {count | (table.applyAll (steps.take count)).holderCount role = 0}

theorem mem_vacancies_iff (steps : List RoleStep) (role : Role) (count : Nat) :
    count ∈ table.vacancies steps role ↔
      (table.applyAll (steps.take count)).holderCount role = 0 :=
  Iff.rfl

theorem zero_mem_vacancies_iff (steps : List RoleStep) (role : Role) :
    0 ∈ table.vacancies steps role ↔ table.holderCount role = 0 := by
  rw [mem_vacancies_iff, List.take_zero]
  rfl

theorem mem_vacancies_nil_iff (role : Role) (count : Nat) :
    count ∈ table.vacancies [] role ↔ table.holderCount role = 0 := by
  rw [mem_vacancies_iff, List.take_nil]
  rfl

theorem succ_mem_vacancies_cons_iff (step : RoleStep) (rest : List RoleStep) (role : Role)
    (count : Nat) :
    count + 1 ∈ table.vacancies (step :: rest) role ↔
      count ∈ (table.apply step).vacancies rest role :=
  Iff.rfl

/-- A role with a holder is first without one so many steps later, counted from behind the first
step. -/
theorem isLeast_vacancies_cons_iff {step : RoleStep} {rest : List RoleStep} {role : Role}
    (held : table.holderCount role ≠ 0) (count : Nat) :
    IsLeast (table.vacancies (step :: rest) role) count ↔
      ∃ further, count = further + 1 ∧
        IsLeast ((table.apply step).vacancies rest role) further := by
  constructor
  · rintro ⟨hmem, hleast⟩
    cases count with
    | zero => exact absurd ((table.zero_mem_vacancies_iff _ _).mp hmem) held
    | succ further =>
      refine ⟨further, rfl, (table.succ_mem_vacancies_cons_iff _ _ _ _).mp hmem, ?_⟩
      intro other hother
      have hle := hleast ((table.succ_mem_vacancies_cons_iff _ _ _ _).mpr hother)
      exact Nat.le_of_succ_le_succ hle
  · rintro ⟨further, rfl, hmem, hleast⟩
    refine ⟨(table.succ_mem_vacancies_cons_iff _ _ _ _).mpr hmem, ?_⟩
    intro other hother
    cases other with
    | zero => exact absurd ((table.zero_mem_vacancies_iff _ _).mp hother) held
    | succ other =>
      have hle := hleast ((table.succ_mem_vacancies_cons_iff _ _ _ _).mp hother)
      exact Nat.succ_le_succ hle

end Authority

namespace Handover

/-! ## Any steps -/

/-- Every role that had a holder initially and has none now has been reported. -/
def Known (initial : Authority) (reported : List Role) (table : Authority) : Prop :=
  ∀ role, 0 < initial.holderCount role → table.holderCount role = 0 → role ∈ reported

section Loop

variable {initial table : Authority} {reported : List Role} {step : RoleStep}

/-- A step whose role is reported keeps everything known. -/
theorem Known.report (known : Known initial reported table) :
    Known initial (step.role :: reported) (table.apply step) := by
  intro role hheld hvacant
  by_cases hrole : role = step.role
  · exact List.mem_cons.mpr (.inl hrole)
  · rw [table.holderCount_apply_of_ne hrole] at hvacant
    exact List.mem_cons_of_mem _ (known role hheld hvacant)

/-- A step that makes no new gap keeps everything known. -/
theorem Known.pass (known : Known initial reported table)
    (hpass : ¬ ((table.apply step).holderCount step.role = 0 ∧
      0 < initial.holderCount step.role ∧ step.role ∉ reported)) :
    Known initial reported (table.apply step) := by
  intro role hheld hvacant
  by_cases hrole : role = step.role
  · subst hrole
    by_contra habsent
    exact hpass ⟨hvacant, hheld, habsent⟩
  · rw [table.holderCount_apply_of_ne hrole] at hvacant
    exact known role hheld hvacant

/-- A gap is due in the remaining steps if its role had a holder initially, has not been reported,
and is without a holder after the step of the gap for the first time; the steps are counted on. -/
def Due (initial : Authority) (reported : List Role) (table : Authority) (count : Nat)
    (steps : List RoleStep) (fault : HandoverError) : Prop :=
  ∃ role further, fault = .gap role (count + further) ∧ role ∉ reported ∧
    0 < initial.holderCount role ∧ IsLeast (table.vacancies steps role) further

/-- While everything is known, no gap is due before the next step. -/
theorem due_cons_iff (known : Known initial reported table) (count : Nat) (rest : List RoleStep)
    (fault : HandoverError) :
    Due initial reported table count (step :: rest) fault ↔
      Due initial reported (table.apply step) (count + 1) rest fault := by
  have hheld : ∀ role, role ∉ reported → 0 < initial.holderCount role →
      table.holderCount role ≠ 0 := by
    intro role habsent hinitial hvacant
    exact habsent (known role hinitial hvacant)
  constructor
  · rintro ⟨role, further, rfl, habsent, hinitial, hleast⟩
    obtain ⟨later, rfl, hlater⟩ :=
      (table.isLeast_vacancies_cons_iff (hheld role habsent hinitial) further).mp hleast
    exact ⟨role, later, by rw [Nat.add_assoc, Nat.add_comm 1], habsent, hinitial, hlater⟩
  · rintro ⟨role, later, rfl, habsent, hinitial, hlater⟩
    have hleast := (table.isLeast_vacancies_cons_iff (hheld role habsent hinitial) (later + 1)).mpr
      ⟨later, rfl, hlater⟩
    exact ⟨role, later + 1, by rw [Nat.add_assoc, Nat.add_comm 1], habsent, hinitial, hleast⟩

/-- If a role that is not reported yet has become vacant, its gap is due at once, and the others are
those that are due when it is reported. -/
theorem due_of_vacant {role : Role} (hvacant : table.holderCount role = 0)
    (hinitial : 0 < initial.holderCount role) (habsent : role ∉ reported) (count : Nat)
    (steps : List RoleStep) (fault : HandoverError) :
    Due initial reported table count steps fault ↔
      fault = .gap role count ∨ Due initial (role :: reported) table count steps fault := by
  have hnow : IsLeast (table.vacancies steps role) 0 :=
    ⟨(table.zero_mem_vacancies_iff _ _).mpr hvacant, fun _ _ => Nat.zero_le _⟩
  constructor
  · rintro ⟨other, further, rfl, hother, hheld, hleast⟩
    by_cases hsame : other = role
    · subst hsame
      rw [hleast.unique hnow]
      exact .inl rfl
    · refine .inr ⟨other, further, rfl, ?_, hheld, hleast⟩
      rw [List.mem_cons, not_or]
      exact ⟨hsame, hother⟩
  · rintro (rfl | ⟨other, further, rfl, hother, hheld, hleast⟩)
    · exact ⟨role, 0, rfl, habsent, hinitial, hnow⟩
    · exact ⟨other, further, rfl, fun hmem => hother (List.mem_cons_of_mem _ hmem), hheld, hleast⟩

/-- While everything is known, exactly the gaps that are due are reported of the remaining steps. -/
theorem mem_gapsFrom_iff (known : Known initial reported table) (count : Nat)
    (steps : List RoleStep) (fault : HandoverError) :
    fault ∈ gapsFrom initial reported table count steps ↔
      Due initial reported table count steps fault := by
  induction steps generalizing reported table count with
  | nil =>
    constructor
    · intro hmem
      cases hmem
    · -- without steps a role is vacant at once or not at all
      rintro ⟨role, further, -, habsent, hinitial, hmem, -⟩
      exact absurd (known role hinitial ((table.mem_vacancies_nil_iff _ _).mp hmem)) habsent
  | cons step rest ih =>
    rw [gapsFrom, due_cons_iff known]
    split
    · -- the gap that is reported is the one that is due at once
      rename_i hgap
      obtain ⟨hvacant, hinitial, habsent⟩ := hgap
      rw [List.mem_cons, ih known.report, due_of_vacant hvacant hinitial habsent]
    · rename_i hpass
      exact ih (known.pass hpass) (count + 1)

/-- The gaps are of different roles and in the order of the steps. -/
theorem pairwise_gapsFrom (known : Known initial reported table) (count : Nat)
    (steps : List RoleStep) :
    (gapsFrom initial reported table count steps).Pairwise HandoverError.Before := by
  induction steps generalizing reported table count with
  | nil => exact .nil
  | cons step rest ih =>
    rw [gapsFrom]
    split
    · refine List.pairwise_cons.mpr ⟨?_, ih known.report (count + 1)⟩
      intro fault hmem
      obtain ⟨role, later, rfl, hrole, hinitial, hleast⟩ :=
        (mem_gapsFrom_iff known.report _ _ _).mp hmem
      -- a gap at once would be of a role that is known
      have hlater : later ≠ 0 := by
        rintro rfl
        have hvacant := ((table.apply step).zero_mem_vacancies_iff _ _).mp hleast.1
        exact hrole (known.report role hinitial hvacant)
      apply HandoverError.Before.gaps
      · rintro rfl
        exact hrole List.mem_cons_self
      · omega
    · rename_i hpass
      exact ih (known.pass hpass) (count + 1)

end Loop

theorem known_start (table : Authority) : Known table [] table := by
  intro role hheld hvacant
  omega

/-- The gaps of steps are the first moments at which roles with a holder at first have none. -/
theorem mem_gaps_iff (table : Authority) (steps : List RoleStep) (fault : HandoverError) :
    fault ∈ gaps table steps ↔
      ∃ role count, fault = .gap role count ∧ 0 < table.holderCount role ∧
        IsLeast (table.vacancies steps role) count := by
  rw [gaps, mem_gapsFrom_iff (known_start table), Due]
  simp only [Nat.zero_add, List.not_mem_nil, not_false_eq_true, true_and]

theorem pairwise_gaps (table : Authority) (steps : List RoleStep) :
    (gaps table steps).Pairwise HandoverError.Before :=
  pairwise_gapsFrom (known_start table) 0 steps

/-- For a role with a holder at first it makes no difference whether the beginning is looked at. -/
theorem positive_vacancies {table : Authority} {role : Role} (held : 0 < table.holderCount role)
    (steps : List RoleStep) :
    {count | 1 ≤ count ∧ (table.applyAll (steps.take count)).holderCount role = 0} =
      table.vacancies steps role := by
  apply Set.ext
  intro count
  constructor
  · exact And.right
  · intro hmem
    refine ⟨Nat.one_le_iff_ne_zero.mpr ?_, hmem⟩
    rintro rfl
    have hvacant := (table.zero_mem_vacancies_iff steps role).mp hmem
    omega

/-- The gaps of steps are the least numbers of steps, one or more, after which roles with a holder
at first have none. -/
theorem mem_gaps_iff_isLeast (table : Authority) (steps : List RoleStep) (fault : HandoverError) :
    fault ∈ gaps table steps ↔
      ∃ role count, fault = .gap role count ∧ 0 < table.holderCount role ∧
        IsLeast {count | 1 ≤ count ∧ (table.applyAll (steps.take count)).holderCount role = 0}
          count := by
  rw [mem_gaps_iff]
  constructor
  · rintro ⟨role, count, hfault, held, hleast⟩
    rw [← positive_vacancies held] at hleast
    exact ⟨role, count, hfault, held, hleast⟩
  · rintro ⟨role, count, hfault, held, hleast⟩
    rw [positive_vacancies held] at hleast
    exact ⟨role, count, hfault, held, hleast⟩

/-- A gap is reported of every role that has a holder at first and none after some of the steps. -/
theorem exists_gap_iff (table : Authority) (steps : List RoleStep) (role : Role) :
    (∃ count, .gap role count ∈ gaps table steps) ↔
      0 < table.holderCount role ∧
        ∃ count, 1 ≤ count ∧ (table.applyAll (steps.take count)).holderCount role = 0 := by
  constructor
  · rintro ⟨count, hmem⟩
    obtain ⟨_, _, hfault, held, hleast⟩ := (mem_gaps_iff_isLeast table steps _).mp hmem
    cases hfault
    exact ⟨held, count, hleast.1⟩
  · rintro ⟨held, hsome⟩
    -- of the numbers of steps that leave the role without a holder there is a least one
    refine ⟨Nat.find hsome, (mem_gaps_iff_isLeast table steps _).mpr ⟨role, _, rfl, held, ?_⟩⟩
    refine ⟨Nat.find_spec hsome, ?_⟩
    intro other hother
    exact Nat.find_min' hsome hother

/-! ## The steps of a handover -/

/-- The number of listed roles that stand before a role in the order of roles. -/
def preceding (roles : List Role) (role : Role) : Nat :=
  Role.all.countP fun other => decide (other ∈ roles ∧ other.position < role.position)

theorem preceding_eq (roles : List Role) (role : Role) :
    preceding roles role =
      (distinctRoles roles).countP fun other => decide (other.position < role.position) := by
  rw [distinctRoles, List.countP_filter, preceding]
  apply List.countP_congr
  intro other _
  simp [and_comm]

/-- Among the first of a number of roles in order is a role before which fewer of them stand. -/
theorem mem_take_iff_countP_lt {listed : List Role}
    (sorted : listed.Pairwise fun left right => left.position < right.position) {role : Role}
    (hmem : role ∈ listed) (count : Nat) :
    role ∈ listed.take count ↔
      listed.countP (fun other => decide (other.position < role.position)) < count := by
  induction listed generalizing count with
  | nil => cases hmem
  | cons head rest ih =>
    obtain ⟨hhead, hrest⟩ := List.pairwise_cons.mp sorted
    cases count with
    | zero => simp
    | succ count =>
      rw [List.take_succ_cons, List.mem_cons, List.countP_cons]
      rcases List.mem_cons.mp hmem with rfl | hlater
      · -- nothing stands before the first role
        have hnone : rest.countP (fun other => decide (other.position < role.position)) = 0 := by
          apply List.countP_eq_zero.mpr
          intro other hother
          have hlt := hhead other hother
          simp only [decide_eq_true_eq]
          omega
        simp [hnone]
      · have hlt := hhead role hlater
        have hne : role ≠ head := by
          rintro rfl
          exact Nat.lt_irrefl _ hlt
        rw [ih hrest hlater, if_pos (decide_eq_true hlt), or_iff_right hne]
        omega

theorem mem_take_distinctRoles_iff (roles : List Role) (role : Role) (count : Nat) :
    role ∈ (distinctRoles roles).take count ↔ role ∈ roles ∧ preceding roles role < count := by
  have sorted : (distinctRoles roles).Pairwise fun left right => left.position < right.position :=
    List.Pairwise.sublist (distinctRoles_sublist roles) (by decide)
  rw [preceding_eq, ← Authority.mem_distinctRoles roles role]
  constructor
  · intro hmem
    have hlisted := List.mem_of_mem_take hmem
    exact ⟨hlisted, (mem_take_iff_countP_lt sorted hlisted count).mp hmem⟩
  · rintro ⟨hlisted, hlt⟩
    exact (mem_take_iff_countP_lt sorted hlisted count).mpr hlt

theorem preceding_lt_length {roles : List Role} {role : Role} (hrole : role ∈ roles) :
    preceding roles role < (distinctRoles roles).length := by
  have hmem := (Authority.mem_distinctRoles roles role).mpr hrole
  rw [← List.take_length (l := distinctRoles roles), mem_take_distinctRoles_iff] at hmem
  exact hmem.2

/-- In the course of a handover the new account holds the roles that have been given, and all others
hold what they held, but the old account only what has not been taken. -/
theorem holds_take_plan (table : Authority) (old new : Address) (roles : List Role) (count : Nat)
    (role : Role) (account : Address) :
    (table.applyAll ((plan old new roles).take count)).holds role account = true ↔
      (role ∈ (distinctRoles roles).take (count - (distinctRoles roles).length) ∧
        account = new) ∨
      (¬ (role ∈ (distinctRoles roles).take count ∧ account = old) ∧
        table.holds role account = true) := by
  rw [plan, List.take_append, List.length_map, ← List.map_take, ← List.map_take,
    Authority.applyAll_append, Authority.holds_grants, Authority.holds_revokes]

/-- In the course of a handover a role with a holder is without one from the step that takes it up
to the step that gives it, and only if the old account alone holds it. -/
theorem mem_vacancies_plan_iff {table : Authority} {role : Role}
    (held : 0 < table.holderCount role) (old new : Address) (roles : List Role) (count : Nat) :
    count ∈ table.vacancies (plan old new roles) role ↔
      role ∈ (distinctRoles roles).take count ∧
        role ∉ (distinctRoles roles).take (count - (distinctRoles roles).length) ∧
        ∀ account, table.holds role account = true → account = old := by
  obtain ⟨holder, hholder⟩ := (table.holderCount_pos_iff role).mp held
  have hholds := holds_take_plan table old new roles count role
  rw [Authority.mem_vacancies_iff, Authority.holderCount_eq_zero_iff]
  constructor
  · intro hvacant
    -- whoever held the role has lost it, which happens to the old account only
    have hlost : ∀ account, table.holds role account = true →
        role ∈ (distinctRoles roles).take count ∧ account = old := by
      intro account haccount
      by_contra hkept
      exact hvacant account ((hholds account).mpr (.inr ⟨hkept, haccount⟩))
    refine ⟨(hlost holder hholder).1, ?_, fun account haccount => (hlost account haccount).2⟩
    intro hgiven
    exact hvacant new ((hholds new).mpr (.inl ⟨hgiven, rfl⟩))
  · rintro ⟨htaken, hnotGiven, alone⟩ account haccount
    rcases (hholds account).mp haccount with ⟨hgiven, -⟩ | ⟨hkept, hbefore⟩
    · exact hnotGiven hgiven
    · exact hkept ⟨htaken, alone account hbefore⟩

/-- In the course of a handover a role with a holder is first without one after it has been taken
from the old account, if it is listed and held by nobody else. -/
theorem isLeast_vacancies_plan_iff {table : Authority} {role : Role}
    (held : 0 < table.holderCount role) (old new : Address) (roles : List Role) (count : Nat) :
    IsLeast (table.vacancies (plan old new roles) role) count ↔
      role ∈ roles ∧ (∀ account, table.holds role account = true → account = old) ∧
        count = 1 + preceding roles role := by
  -- no role is given before all are taken
  have hfirst : role ∈ roles → (∀ account, table.holds role account = true → account = old) →
      1 + preceding roles role ∈ table.vacancies (plan old new roles) role := by
    intro hrole alone
    have hlength := preceding_lt_length hrole
    rw [mem_vacancies_plan_iff held, mem_take_distinctRoles_iff, mem_take_distinctRoles_iff]
    exact ⟨⟨hrole, by omega⟩, fun hgiven => by omega, alone⟩
  have hleast : ∀ other ∈ table.vacancies (plan old new roles) role,
      role ∈ roles ∧ preceding roles role < other ∧
        ∀ account, table.holds role account = true → account = old := by
    intro other hother
    obtain ⟨htaken, -, alone⟩ := (mem_vacancies_plan_iff held old new roles other).mp hother
    obtain ⟨hrole, hlt⟩ := (mem_take_distinctRoles_iff roles role other).mp htaken
    exact ⟨hrole, hlt, alone⟩
  constructor
  · rintro ⟨hmem, hlower⟩
    obtain ⟨hrole, hlt, alone⟩ := hleast count hmem
    have hle := hlower (hfirst hrole alone)
    exact ⟨hrole, alone, by omega⟩
  · rintro ⟨hrole, alone, rfl⟩
    refine ⟨hfirst hrole alone, ?_⟩
    intro other hother
    obtain ⟨-, hlt, -⟩ := hleast other hother
    omega

/-- The gaps of a handover are those of the listed roles whose only holder is the old account, each
in the step in which it is taken. -/
theorem mem_gaps_plan_iff (table : Authority) (old new : Address) (roles : List Role)
    (fault : HandoverError) :
    fault ∈ gaps table (plan old new roles) ↔
      ∃ role ∈ roles, table.holders role = [old] ∧
        fault = .gap role (1 + preceding roles role) := by
  rw [mem_gaps_iff]
  constructor
  · rintro ⟨role, count, rfl, held, hleast⟩
    obtain ⟨hrole, alone, rfl⟩ := (isLeast_vacancies_plan_iff held old new roles count).mp hleast
    exact ⟨role, hrole, (table.holders_eq_singleton_iff role old).mpr ⟨held, alone⟩, rfl⟩
  · rintro ⟨role, hrole, hholders, rfl⟩
    obtain ⟨held, alone⟩ := (table.holders_eq_singleton_iff role old).mp hholders
    refine ⟨role, _, rfl, held, ?_⟩
    exact (isLeast_vacancies_plan_iff held old new roles _).mpr ⟨hrole, alone, rfl⟩

/-- What is reported of steps are gaps, one for each role that has a holder at first and none after
some of the steps, with the least such number of steps, and in the order of these numbers. Of the
steps of a handover, to whomever, they are the listed roles whose only holder is the old account,
each in the step in which it is taken. -/
theorem gaps_exact (table : Authority) (steps : List RoleStep) :
    (∀ fault, fault ∈ gaps table steps ↔
      ∃ role count, fault = .gap role count ∧ 0 < table.holderCount role ∧
        IsLeast {count | 1 ≤ count ∧ (table.applyAll (steps.take count)).holderCount role = 0}
          count) ∧
    (gaps table steps).Pairwise HandoverError.Before ∧
    (∀ role, (∃ count, .gap role count ∈ gaps table steps) ↔
      0 < table.holderCount role ∧
        ∃ count, 1 ≤ count ∧ (table.applyAll (steps.take count)).holderCount role = 0) ∧
    ∀ old new roles fault, fault ∈ gaps table (plan old new roles) ↔
      ∃ role ∈ roles, table.holders role = [old] ∧
        fault = .gap role (1 + preceding roles role) := by
  exact ⟨mem_gaps_iff_isLeast table steps, pairwise_gaps table steps, exists_gap_iff table steps,
    mem_gaps_plan_iff table⟩

end Handover

end GovernanceRelay
