import GovernanceRelay.Proofs.Governance.Admins
import GovernanceRelay.Proofs.Governance.Attained
import GovernanceRelay.Proofs.Snapshot.Restoring

/-!
# What is not checked when a governance is restored

A snapshot is restored if its version is the current one and it names no mediator that is the zero
address. Nothing else is checked: the roles are granted, the settings rebuilt and the entrypoints
declared as they are listed, and the changes become the history with the numbers that they bear. So
what requests always keep holds of a restored governance exactly if the snapshot lists it so
(`Snapshot.Orderly`), and only then do requests lead to it (`Governance.restored_attained_iff`). A
snapshot without an admin is restored like any other, and nothing can be changed afterwards
(`Governance.run_of_no_admin`).
-/

set_option autoImplicit false

namespace GovernanceRelay

/-- The lists of a snapshot have what every request keeps. -/
structure Snapshot.Orderly (saved : Snapshot) : Prop where
  /-- It lists an admin. -/
  administered : ∃ account, (Role.admin, account) ∈ saved.roles
  /-- It lists no entrypoint that is the zero address. -/
  entrypoints : ∀ route ∈ saved.routes, route.1.isZero = false
  /-- Its changes are about proper calls. -/
  proper : ∀ change ∈ saved.history, change.key.Proper
  /-- Its changes are numbered in order. -/
  numbered : ∀ index change, saved.history[index]? = some change →
    change.sequence = UInt64.ofNat index
  /-- Each change tells what the changes before it say of its call. -/
  previous : ∀ index change, saved.history[index]? = some change →
    change.previous = (AllowList.ofHistory (saved.history.take index)).lookup change.key

/-- An allow-list that is rebuilt from its changes is proper if they are about proper calls. -/
theorem AllowList.proper_ofHistory_iff (history : List PolicyChange) :
    (ofHistory history).Proper ↔ ∀ change ∈ history, change.key.Proper := by
  constructor
  · exact fun proper => proper.history
  · intro hproper
    refine ⟨fun key allowed hlookup => ?_, hproper⟩
    -- something is said of a call only if some change is about it
    have hsaid : ¬ ∀ change ∈ history, change.key ≠ key := by
      rw [← lookup_ofHistory_eq_none_iff, hlookup]
      exact Option.some_ne_none allowed
    obtain ⟨change, hmem, rfl⟩ : ∃ change ∈ history, change.key = key := by simpa using hsaid
    exact hproper change hmem

namespace Governance

/-- The governance that the lists lead to is restored from the bytes of a snapshot that passes. -/
theorem ofBytes_form {saved : Snapshot} (countable : saved.Countable)
    (current : saved.version = Snapshot.currentVersion)
    (nonzero : ∀ named ∈ saved.mediators, named.2.isZero = false) :
    Snapshot.ofBytes saved.form = .ok saved ∧ ofBytes saved.form = .ok (listed saved) := by
  have hread : Snapshot.ofBytes saved.form = .ok saved :=
    (Snapshot.oneForm.restored _ _).mpr (Snapshot.oneForm.written _ countable)
  refine ⟨hread, ?_⟩
  rw [ofBytes, hread]
  exact (ofSnapshot_eq_ok_iff _ _).mpr ⟨⟨current, nonzero⟩, rfl⟩

/-! ## What holds of a restored governance -/

section Listed

variable (saved : Snapshot)

theorem administered_listed_iff :
    (∃ account, (listed saved).roles.holds .admin account = true) ↔
      ∃ account, (Role.admin, account) ∈ saved.roles := by
  refine exists_congr fun account => ?_
  rw [listed, Authority.holds_grantAll]
  exact or_iff_left (fun h => by cases h)

theorem entrypoints_listed_iff :
    (∀ entrypoint destination, (listed saved).routeOf entrypoint = some destination →
      entrypoint.isZero = false) ↔ ∀ route ∈ saved.routes, route.1.isZero = false := by
  have hcontains := OrderedMap.contains_ofList_iff saved.routes
  constructor
  · intro hnonzero route hmem
    obtain ⟨destination, hroute⟩ :=
      Option.isSome_iff_exists.mp ((hcontains route.1).mpr ⟨route, hmem, rfl⟩)
    exact hnonzero route.1 destination hroute
  · intro hnonzero entrypoint destination hroute
    obtain ⟨route, hmem, rfl⟩ :=
      (hcontains entrypoint).mp (Option.isSome_iff_exists.mpr ⟨destination, hroute⟩)
    exact hnonzero route hmem

/-- What requests always keep holds exactly if the snapshot lists it so. -/
theorem attained_listed_iff (nonzero : ∀ named ∈ saved.mediators, named.2.isZero = false) :
    (listed saved).Attained ↔ saved.Orderly := by
  rw [attained_iff]
  constructor
  · rintro ⟨inOrder, audited⟩
    exact ⟨(administered_listed_iff saved).mp inOrder.administered,
      (entrypoints_listed_iff saved).mp inOrder.entrypoints, inOrder.policies.history,
      audited.numbered, audited.previous⟩
  · intro orderly
    refine ⟨⟨(administered_listed_iff saved).mpr orderly.administered,
      Authority.peopled_empty.grantAll saved.roles, ?_,
      (entrypoints_listed_iff saved).mpr orderly.entrypoints,
      (AllowList.proper_ofHistory_iff _).mpr orderly.proper⟩,
      ⟨rfl, orderly.numbered, orderly.previous⟩⟩
    exact nonzero_foldl_insert (fun chain mediator h => by cases h) nonzero

end Listed

/-- Whatever bytes a governance is restored from, no mediator of it is the zero address. Whether it
has an admin, whether the zero address is an entrypoint, whether its allow-list is about proper calls
and whether its history is an audit log is up to the lists in the bytes alone: they are not refused
for it, and the governance is one that requests lead to exactly if the lists are orderly. -/
theorem restored_attained_iff (bytes : Bytes) :
    ((∃ governance, ofBytes bytes = .ok governance) ↔
      ∃ saved, Snapshot.ofBytes bytes = .ok saved ∧
        saved.version = Snapshot.currentVersion ∧
        ∀ named ∈ saved.mediators, named.2.isZero = false) ∧
    ∀ saved governance, Snapshot.ofBytes bytes = .ok saved → ofBytes bytes = .ok governance →
      (∀ chain mediator, governance.mediatorOf chain = some mediator → mediator.isZero = false) ∧
      ((∃ account, governance.roles.holds .admin account = true) ↔
        ∃ account, (Role.admin, account) ∈ saved.roles) ∧
      ((∀ entrypoint destination, governance.routeOf entrypoint = some destination →
        entrypoint.isZero = false) ↔ ∀ route ∈ saved.routes, route.1.isZero = false) ∧
      (governance.policies.Proper ↔ ∀ change ∈ saved.history, change.key.Proper) ∧
      governance.policies = AllowList.ofHistory saved.history ∧
      (governance.Attained ↔ saved.Orderly) := by
  have hofBytes : ∀ governance, ofBytes bytes = .ok governance ↔
      ∃ saved, Snapshot.ofBytes bytes = .ok saved ∧ ofSnapshot saved = .ok governance := by
    intro governance
    rw [ofBytes]
    cases Snapshot.ofBytes bytes <;> simp
  simp only [hofBytes, ofSnapshot_eq_ok_iff]
  refine ⟨?_, ?_⟩
  · constructor
    · rintro ⟨-, saved, hread, hchecked, -⟩
      exact ⟨saved, hread, hchecked⟩
    · rintro ⟨saved, hread, hchecked⟩
      exact ⟨listed saved, saved, hread, hchecked, rfl⟩
  · rintro saved governance hread ⟨other, hother, ⟨-, nonzero⟩, rfl⟩
    obtain rfl : saved = other := Except.ok.inj (hread.symm.trans hother)
    exact ⟨nonzero_foldl_insert (fun chain mediator h => by cases h) nonzero,
      administered_listed_iff saved, entrypoints_listed_iff saved,
      AllowList.proper_ofHistory_iff saved.history, rfl, attained_listed_iff saved nonzero⟩

/-- A snapshot with an admin, an entrypoint and two changes about one call, which is allowed and then
forbidden. -/
def lawful : Snapshot where
  version := 1
  roles := [(.admin, FixedBytes.replicate 1)]
  mediators := [(5, FixedBytes.replicate 2)]
  history := [⟨0, ⟨FixedBytes.replicate 3, FixedBytes.replicate 4, 5⟩, none, true⟩,
    ⟨1, ⟨FixedBytes.replicate 3, FixedBytes.replicate 4, 5⟩, some true, false⟩]
  routes := [(FixedBytes.replicate 6, 5)]

/-- The governance that is restored from it is one that requests lead to. -/
theorem lawful_restored :
    Snapshot.ofBytes lawful.form = .ok lawful ∧ ofBytes lawful.form = .ok (listed lawful) ∧
      (listed lawful).Attained := by
  have countable : lawful.Countable :=
    ⟨by decide +kernel, by decide +kernel, by decide +kernel, by decide +kernel⟩
  obtain ⟨hread, hrestored⟩ := ofBytes_form countable rfl (by decide +kernel)
  obtain ⟨-, -, -, -, -, hattained⟩ :=
    (restored_attained_iff lawful.form).2 lawful (listed lawful) hread hrestored
  have proper : ∀ change ∈ lawful.history, change.key.Proper := by
    intro change hmem
    have hkey : change.key = ⟨FixedBytes.replicate 3, FixedBytes.replicate 4, 5⟩ := by
      revert hmem change
      decide +kernel
    rw [hkey]
    exact ⟨by decide +kernel, by decide +kernel, by decide⟩
  have told : ∀ index change, lawful.history[index]? = some change →
      change.sequence = UInt64.ofNat index ∧
        change.previous = (AllowList.ofHistory (lawful.history.take index)).lookup change.key := by
    intro index change h
    match index with
    | 0 =>
      cases h
      exact ⟨rfl, rfl⟩
    | 1 =>
      cases h
      exact ⟨rfl, by decide +kernel⟩
    | _ + 2 => cases h
  refine ⟨hread, hrestored, hattained.mpr ?_⟩
  exact ⟨⟨_, List.mem_cons_self⟩, by decide +kernel, proper,
    fun index change h => (told index change h).1, fun index change h => (told index change h).2⟩

/-- A governance without an admin refuses everything and stays as it is. -/
theorem run_of_no_admin {governance : Governance}
    (nobody : ∀ account, governance.roles.holds .admin account = false)
    (requests : List GovernanceRequest) : governance.run requests = governance := by
  induction requests with
  | nil => rfl
  | cons request rest ih =>
    have hafter : governance.after request = governance :=
      after_of_refused (answer_of_not_admin (nobody request.caller))
    rw [run, List.foldl_cons, hafter]
    exact ih

/-- A snapshot with a proposer alone. It declares the zero address to be an entrypoint, and its only
change bears the number seven, allows an improper call and says that this was allowed before. -/
def lawless : Snapshot where
  version := 1
  roles := [(.proposer, FixedBytes.replicate 1)]
  mediators := [(5, FixedBytes.replicate 2)]
  history := [⟨7, ⟨FixedBytes.zero, FixedBytes.zero, 0⟩, some true, true⟩]
  routes := [(FixedBytes.zero, 5)]

/-- It is restored. There is no admin, and there never will be one; the zero address is an entrypoint,
an improper call is allowed, and the history begins with the number seven and an earlier setting that
there never was. -/
theorem lawless_restored :
    ∃ governance, ofBytes lawless.form = .ok governance ∧
      (∀ account, governance.roles.holds .admin account = false) ∧
      (∀ requests, governance.run requests = governance) ∧
      governance.routeOf FixedBytes.zero = some 5 ∧
      governance.policies.allows ⟨FixedBytes.zero, FixedBytes.zero, 0⟩ = true ∧
      governance.policies.history.map PolicyChange.sequence = [7] ∧
      governance.policies.history.map PolicyChange.previous = [some true] ∧
      ¬ governance.InOrder ∧ ¬ governance.policies.Audited ∧ ¬ governance.Attained := by
  have countable : lawless.Countable :=
    ⟨by decide +kernel, by decide +kernel, by decide +kernel, by decide +kernel⟩
  obtain ⟨-, hrestored⟩ := ofBytes_form countable rfl (by decide +kernel)
  have nobody : ∀ account, (listed lawless).roles.holds .admin account = false := by
    intro account
    apply eq_false_of_ne_true
    intro hholds
    obtain ⟨other, hmem⟩ := (administered_listed_iff lawless).mp ⟨account, hholds⟩
    simp [lawless] at hmem
  have hunordered : ¬ (listed lawless).InOrder := by
    intro inOrder
    obtain ⟨account, hholds⟩ := inOrder.administered
    rw [nobody account] at hholds
    cases hholds
  refine ⟨listed lawless, hrestored, nobody, run_of_no_admin nobody, by decide +kernel,
    by decide +kernel, rfl, rfl, hunordered, fun audited => ?_,
    fun attained => hunordered attained.inOrder⟩
  · -- the first change would have number zero
    have hzero := audited.numbered 0 _ rfl
    revert hzero
    decide

end Governance

end GovernanceRelay
