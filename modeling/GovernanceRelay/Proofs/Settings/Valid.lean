import GovernanceRelay.Proofs.AllowList
import GovernanceRelay.Proofs.Authority
import GovernanceRelay.Proofs.Course
import GovernanceRelay.Storage

/-!
# Settings that are valid and settings that can be applied

A new governance begins with everything that the settings list, or it does not begin. It begins
exactly if nothing in the lists is refused (`Settings.seed_eq_ok_iff`), and then the last entry about
a thing counts. The check of the settings looks for some of what would be refused: for mediators that
are the zero address and for texts that are no selector (`Settings.validate_eq_ok_iff`). It does not
look at the targets, chains and selectors of the allow-list and at the entrypoints, so that valid
settings may still begin no governance (`Settings.valid_opens_iff`).
-/

set_option autoImplicit false

namespace GovernanceRelay

/-- The call that a setting of the allow-list is about, if it has a selector. -/
def PolicySeed.key? (seed : PolicySeed) : Option CallKey :=
  match Selector.parseAny seed.selector with
  | .ok selector => some ⟨seed.target, selector, seed.chain⟩
  | .error _ => none

/-- The setting as an entry of an update, if it has a selector. -/
def PolicySeed.parsed? (seed : PolicySeed) : Option PolicyEntry :=
  seed.key?.map (⟨·, seed.allowed⟩)

/-- A setting of the allow-list is proper if the call that it is about is. -/
def PolicySeed.Proper (seed : PolicySeed) : Prop :=
  ∀ key, seed.key? = some key → key.Proper

/-- What an update with the setting at an index is refused for. -/
def PolicySeed.fault? (index : Nat) (seed : PolicySeed) : Option PolicyError :=
  seed.parsed?.bind (·.fault? index)

theorem PolicySeed.fault?_eq_none_iff (index : Nat) (seed : PolicySeed) :
    seed.fault? index = none ↔ seed.Proper := by
  rw [fault?, parsed?, Proper]
  cases seed.key? with
  | none => simp
  | some key => simp [PolicyEntry.fault?_eq_none_iff]

/-- What the entries of seeds say of a call is what the last of the seeds about it says. -/
theorem lastSaid?_filterMap_parsed? (seeds : List PolicySeed) (key : CallKey) :
    lastSaid? (seeds.filterMap PolicySeed.parsed?) key =
      lastValue? PolicySeed.key? PolicySeed.allowed seeds (some key) := by
  induction seeds with
  | nil => rfl
  | cons seed rest ih =>
    rw [lastValue?_cons, ← ih, List.filterMap_cons, PolicySeed.parsed?]
    cases hkey : seed.key? with
    | none => simp
    | some found =>
      rw [Option.map_some, lastSaid?_cons]
      simp only [Option.some.injEq, eq_comm]

namespace Settings

/-! ## The parts of a new governance -/

section Parts

variable (governance : Governance) {admin : Address}
  (hadmin : governance.roles.holds .admin admin = true) {done : Governance}

include hadmin

/-- All mediators are taken, unless one of them is the zero address. -/
theorem seedMediators_eq_ok_iff (seeds : List MediatorSeed) :
    seedMediators admin governance seeds = .ok done ↔
      (∀ seed ∈ seeds, seed.address.isZero = false) ∧
        done = { governance with
          mediators := seeds.foldl (fun map seed => map.insert seed.chain seed.address)
            governance.mediators } := by
  induction seeds generalizing governance with
  | nil =>
    rw [seedMediators, Except.ok.injEq, eq_comm]
    exact (and_iff_right fun _ h => nomatch h).symm
  | cons seed rest ih =>
    rw [seedMediators, Governance.setMediator, Governance.unauthorized?, if_pos hadmin,
      List.forall_mem_cons, Mediators.assign]
    cases hzero : seed.address.isZero with
    | true => simp
    | false =>
      simpa using ih { governance with
        mediators := governance.mediators.insert seed.chain seed.address } hadmin

/-- All entrypoints are taken, unless one of them is the zero address. -/
theorem seedRoutes_eq_ok_iff (seeds : List RouteSeed) :
    seedRoutes admin governance seeds = .ok done ↔
      (∀ seed ∈ seeds, seed.entrypoint.isZero = false) ∧
        done = { governance with
          routes := seeds.foldl (fun map seed => map.insert seed.entrypoint seed.destination)
            governance.routes } := by
  induction seeds generalizing governance with
  | nil =>
    rw [seedRoutes, Except.ok.injEq, eq_comm]
    exact (and_iff_right fun _ h => nomatch h).symm
  | cons seed rest ih =>
    rw [seedRoutes, Governance.setRoute, Governance.unauthorized?, if_pos hadmin,
      List.forall_mem_cons]
    cases hzero : seed.entrypoint.isZero with
    | true => simp
    | false =>
      simpa using ih { governance with
        routes := governance.routes.insert seed.entrypoint seed.destination } hadmin

/-- Entrypoints are refused where one of them is the zero address and for nothing else. -/
theorem exists_of_seedRoutes_error {seeds : List RouteSeed} {error : GovernanceError}
    (h : seedRoutes admin governance seeds = .error error) :
    ∃ seed ∈ seeds, seed.entrypoint.isZero = true ∧
      error = .mediator (.zeroAddress seed.destination) := by
  induction seeds generalizing governance with
  | nil => cases h
  | cons seed rest ih =>
    rw [seedRoutes, Governance.setRoute, Governance.unauthorized?, if_pos hadmin] at h
    cases hzero : seed.entrypoint.isZero with
    | true =>
      simp only [hzero, ↓reduceIte, Except.error.injEq] at h
      exact ⟨seed, List.mem_cons_self, hzero, h.symm⟩
    | false =>
      simp only [hzero, Bool.false_eq_true, ↓reduceIte] at h
      obtain ⟨later, hmem, hlater⟩ := ih { governance with
        routes := governance.routes.insert seed.entrypoint seed.destination } hadmin h
      exact ⟨later, List.mem_cons_of_mem _ hmem, hlater⟩

/-- All entries of the allow-list are taken, unless a part of one of them is zero. -/
theorem seedPolicies_eq_ok_iff (entries : List PolicyEntry) :
    seedPolicies admin governance entries = .ok done ↔
      (∀ entry ∈ entries, entry.key.Proper) ∧
        done = { governance with
          policies := entries.foldl AllowList.record governance.policies } := by
  cases entries with
  | nil =>
    have hnone : seedPolicies admin governance [] = .ok governance := rfl
    rw [hnone, Except.ok.injEq, eq_comm]
    exact (and_iff_right fun _ h => nomatch h).symm
  | cons entry rest =>
    have hupdate := governance.policies.update_eq_ok_iff (entry :: rest)
    rw [seedPolicies, List.isEmpty_cons, if_neg Bool.false_ne_true, Governance.setPolicies,
      Governance.unauthorized?, if_pos hadmin]
    cases h : governance.policies.update (entry :: rest) with
    | error error =>
      refine iff_of_false (fun hdone => nomatch hdone) fun ⟨hproper, _⟩ => ?_
      have hok := (hupdate _).mpr ⟨List.cons_ne_nil entry rest, hproper, rfl⟩
      rw [h] at hok
      cases hok
    | ok updated =>
      obtain ⟨-, hproper, rfl⟩ := (hupdate updated).mp h
      rw [Except.ok.injEq, eq_comm]
      exact (and_iff_right hproper).symm

/-- Entries of the allow-list are refused for the first fault of theirs. -/
theorem firstFault_of_seedPolicies_error {entries : List PolicyEntry} {error : GovernanceError}
    (h : seedPolicies admin governance entries = .error error) :
    ∃ fault, firstFault PolicyEntry.fault? 0 entries = some fault ∧ error = .policy fault := by
  rw [seedPolicies, Governance.setPolicies, Governance.unauthorized?, if_pos hadmin] at h
  cases entries with
  | nil => cases h
  | cons entry rest =>
    rw [← AllowList.faultFrom_eq_firstFault]
    simp only [AllowList.update, List.isEmpty_cons, Bool.false_eq_true, ↓reduceIte] at h
    cases hfault : AllowList.faultFrom 0 (entry :: rest) with
    | none =>
      rw [hfault] at h
      cases h
    | some fault =>
      rw [hfault] at h
      cases h
      exact ⟨fault, rfl, rfl⟩

end Parts

/-- The settings of the allow-list are entries of an update if all of them have a selector. -/
theorem policyEntries_eq_ok_iff (seeds : List PolicySeed) (entries : List PolicyEntry) :
    policyEntries seeds = .ok entries ↔
      (∀ seed ∈ seeds, seed.key?.isSome = true) ∧ entries = seeds.filterMap PolicySeed.parsed? := by
  induction seeds generalizing entries with
  | nil =>
    rw [policyEntries, Except.ok.injEq, eq_comm]
    exact (and_iff_right fun _ h => nomatch h).symm
  | cons seed rest ih =>
    rw [policyEntries, List.forall_mem_cons, List.filterMap_cons, PolicySeed.parsed?,
      PolicySeed.key?]
    cases Selector.parseAny seed.selector with
    | error error => simp
    | ok selector =>
      cases hrest : policyEntries rest with
      | error error =>
        refine iff_of_false (fun h => nomatch h) fun ⟨hkeys, _⟩ => ?_
        have hok := (ih _).mpr ⟨hkeys.2, rfl⟩
        rw [hrest] at hok
        cases hok
      | ok found =>
        obtain ⟨hkeys, rfl⟩ := (ih found).mp hrest
        rw [Except.ok.injEq, eq_comm]
        exact (and_iff_right ⟨rfl, hkeys⟩).symm

/-- The first fault of the entries is that of the settings, if all of them have a selector. -/
theorem firstFault_filterMap_parsed? {seeds : List PolicySeed}
    (selected : ∀ seed ∈ seeds, seed.key?.isSome = true) (index : Nat) :
    firstFault PolicyEntry.fault? index (seeds.filterMap PolicySeed.parsed?) =
      firstFault PolicySeed.fault? index seeds := by
  induction seeds generalizing index with
  | nil => rfl
  | cons seed rest ih =>
    obtain ⟨hseed, hrest⟩ := List.forall_mem_cons.mp selected
    obtain ⟨key, hkey⟩ := Option.isSome_iff_exists.mp hseed
    have hentry : seed.parsed? = some ⟨key, seed.allowed⟩ := by rw [PolicySeed.parsed?, hkey]; rfl
    rw [List.filterMap_cons, hentry, firstFault_cons, firstFault_cons, ih hrest, PolicySeed.fault?,
      hentry, Option.bind_some]

/-! ## Validity -/

theorem zeroMediator?_eq_none_iff (seeds : List MediatorSeed) :
    zeroMediator? seeds = none ↔ ∀ seed ∈ seeds, seed.address.isZero = false := by
  induction seeds with
  | nil => simp [zeroMediator?]
  | cons seed rest ih =>
    rw [zeroMediator?, List.forall_mem_cons, ← ih]
    cases seed.address.isZero <;> simp

theorem badSelector?_eq_none_iff (index : Nat) (seeds : List PolicySeed) :
    badSelector? index seeds = none ↔ ∀ seed ∈ seeds, seed.key?.isSome = true := by
  induction seeds generalizing index with
  | nil => simp [badSelector?]
  | cons seed rest ih =>
    rw [badSelector?, List.forall_mem_cons, ← ih (index + 1), PolicySeed.key?]
    cases Selector.parseAny seed.selector <;> simp

/-- Settings are valid if a chain is governed by an account, the governance is saved in its
directory, no mediator is the zero address and every entry of the allow-list has a selector. -/
theorem validate_eq_ok_iff (settings : Settings) :
    settings.validate = .ok () ↔
      settings.homeChain ≠ 0 ∧ settings.admin.isZero = false ∧
        mayTraverse settings.statePath = false ∧
        (∀ seed ∈ settings.mediators, seed.address.isZero = false) ∧
        ∀ seed ∈ settings.policies, seed.key?.isSome = true := by
  have hnone : settings.validate = .ok () ↔ settings.fault? = none := by
    rw [validate]
    cases settings.fault? <;> simp
  rw [hnone, fault?, ← zeroMediator?_eq_none_iff, ← badSelector?_eq_none_iff 0]
  by_cases hchain : settings.homeChain = 0
  · simp [hchain]
  · rw [if_neg hchain]
    cases settings.admin.isZero with
    | true => simp
    | false =>
      cases mayTraverse settings.statePath with
      | true => simp
      | false => cases zeroMediator? settings.mediators <;> simp [hchain]

/-! ## A new governance -/

/-- Settings can begin a governance if nothing in their lists is refused. -/
structure Seedable (settings : Settings) : Prop where
  /-- No mediator is the zero address. -/
  mediators : ∀ seed ∈ settings.mediators, seed.address.isZero = false
  /-- The entries of the allow-list have a selector. -/
  selectors : ∀ seed ∈ settings.policies, seed.key?.isSome = true
  /-- They are about proper calls. -/
  policies : ∀ seed ∈ settings.policies, seed.Proper
  /-- No entrypoint is the zero address. -/
  routes : ∀ seed ∈ settings.routes, seed.entrypoint.isZero = false

/-- The governance with one admin, and with all that is listed put in one after the other. -/
def seeded (settings : Settings) : Governance where
  roles := Authority.ofAdmin settings.admin
  mediators := settings.mediators.foldl (fun map seed => map.insert seed.chain seed.address)
    OrderedMap.empty
  policies := (settings.policies.filterMap PolicySeed.parsed?).foldl AllowList.record
    AllowList.empty
  routes := settings.routes.foldl (fun map seed => map.insert seed.entrypoint seed.destination)
    OrderedMap.empty

theorem holds_ofAdmin_iff (admin : Address) (role : Role) (account : Address) :
    (Authority.ofAdmin admin).holds role account = true ↔ role = .admin ∧ account = admin := by
  rw [Authority.ofAdmin, Authority.holds_grant, Bool.or_eq_true, decide_eq_true_iff]
  exact or_iff_left fun h => nomatch h

/-- The entries of an update are about proper calls if the settings are. -/
theorem forall_parsed?_proper_iff (seeds : List PolicySeed) :
    (∀ entry ∈ seeds.filterMap PolicySeed.parsed?, entry.key.Proper) ↔
      ∀ seed ∈ seeds, seed.Proper := by
  simp only [List.mem_filterMap, PolicySeed.parsed?, Option.map_eq_some_iff]
  constructor
  · intro hentries seed hmem key hkey
    exact hentries ⟨key, seed.allowed⟩ ⟨seed, hmem, key, hkey, rfl⟩
  · rintro hseeds entry ⟨seed, hmem, key, hkey, rfl⟩
    exact hseeds seed hmem key hkey

/-- A governance begins if each part of it does. -/
theorem seed_eq_ok_iff_parts (settings : Settings) (governance : Governance) :
    settings.seed = .ok governance ↔
      ∃ mediated entries allowed,
        seedMediators settings.admin (Governance.create settings.admin) settings.mediators =
          .ok mediated ∧
        policyEntries settings.policies = .ok entries ∧
        seedPolicies settings.admin mediated entries = .ok allowed ∧
        seedRoutes settings.admin allowed settings.routes = .ok governance := by
  rw [seed]
  cases seedMediators settings.admin (Governance.create settings.admin) settings.mediators with
  | error error => simp
  | ok mediated =>
    cases policyEntries settings.policies with
    | error error => simp
    | ok entries =>
      cases hallowed : seedPolicies settings.admin mediated entries with
      | error error => simp [hallowed]
      | ok allowed =>
        cases hrouted : seedRoutes settings.admin allowed settings.routes with
        | error error => simp [hallowed, hrouted]
        | ok routed => simp [hallowed, hrouted]

/-- A governance begins exactly if nothing that is listed is refused, and then it is as the lists
say. -/
theorem seed_eq_ok_iff (settings : Settings) (governance : Governance) :
    settings.seed = .ok governance ↔ settings.Seedable ∧ governance = settings.seeded := by
  have hadmin : (Authority.ofAdmin settings.admin).holds .admin settings.admin = true :=
    (holds_ofAdmin_iff _ _ _).mpr ⟨rfl, rfl⟩
  rw [seed_eq_ok_iff_parts]
  constructor
  · rintro ⟨mediated, entries, allowed, hmediated, hentries, hallowed, hrouted⟩
    obtain ⟨hmediators, rfl⟩ := (seedMediators_eq_ok_iff _ hadmin _).mp hmediated
    obtain ⟨hselectors, rfl⟩ := (policyEntries_eq_ok_iff _ _).mp hentries
    obtain ⟨hproper, rfl⟩ := (seedPolicies_eq_ok_iff _ hadmin _).mp hallowed
    obtain ⟨hroutes, rfl⟩ := (seedRoutes_eq_ok_iff _ hadmin _).mp hrouted
    exact ⟨⟨hmediators, hselectors, (forall_parsed?_proper_iff _).mp hproper, hroutes⟩, rfl⟩
  · rintro ⟨seedable, rfl⟩
    have hproper := (forall_parsed?_proper_iff settings.policies).mpr seedable.policies
    have hmediated := (seedMediators_eq_ok_iff (Governance.create settings.admin) hadmin _).mpr
      ⟨seedable.mediators, rfl⟩
    have hentries := (policyEntries_eq_ok_iff settings.policies _).mpr ⟨seedable.selectors, rfl⟩
    refine ⟨_, _, _, hmediated, hentries, Iff.mpr (seedPolicies_eq_ok_iff _ hadmin _) ⟨hproper, rfl⟩,
      Iff.mpr (seedRoutes_eq_ok_iff _ hadmin _) ⟨seedable.routes, rfl⟩⟩

/-- A governance with sound mediators and selectors is refused for an entry of the allow-list, which
the refusal names, or for an entrypoint. -/
theorem exists_of_seed_error {settings : Settings} {error : SeedError}
    (mediated : ∀ seed ∈ settings.mediators, seed.address.isZero = false)
    (selected : ∀ seed ∈ settings.policies, seed.key?.isSome = true)
    (h : settings.seed = .error error) :
    (∃ before seed after fault, settings.policies = before ++ seed :: after ∧
      (∀ earlier ∈ before, earlier.Proper) ∧
      seed.fault? before.length = some fault ∧ error = .governance (.policy fault)) ∨
    ∃ seed ∈ settings.routes, seed.entrypoint.isZero = true ∧
      error = .governance (.mediator (.zeroAddress seed.destination)) := by
  have hadmin : (Authority.ofAdmin settings.admin).holds .admin settings.admin = true :=
    (holds_ofAdmin_iff _ _ _).mpr ⟨rfl, rfl⟩
  have hmediated := (seedMediators_eq_ok_iff (Governance.create settings.admin) hadmin _).mpr
    ⟨mediated, rfl⟩
  have hentries := (policyEntries_eq_ok_iff settings.policies _).mpr ⟨selected, rfl⟩
  rw [seed, hmediated] at h
  simp only [hentries] at h
  split at h
  · rename_i refusal hrefused
    cases h
    obtain ⟨fault, hfault, rfl⟩ := firstFault_of_seedPolicies_error _ hadmin hrefused
    rw [firstFault_filterMap_parsed? selected] at hfault
    obtain ⟨before, seed, after, hsplit, hbefore, hseed⟩ :=
      (firstFault_eq_some_iff PolicySeed.fault?_eq_none_iff 0 _ fault).mp hfault
    rw [Nat.zero_add] at hseed
    exact .inl ⟨before, seed, after, fault, hsplit, hbefore, hseed, rfl⟩
  · rename_i allowed hallowed
    obtain ⟨-, rfl⟩ := (seedPolicies_eq_ok_iff _ hadmin _).mp hallowed
    split at h
    · rename_i refusal hrefused
      cases h
      obtain ⟨seed, hmem, hzero, rfl⟩ := exists_of_seedRoutes_error _ hadmin hrefused
      exact .inr ⟨seed, hmem, hzero, rfl⟩
    · cases h

section Seeded

variable (settings : Settings)

theorem mediatorOf_seeded (chain : ChainId) :
    settings.seeded.mediatorOf chain =
      lastValue? MediatorSeed.chain MediatorSeed.address settings.mediators chain :=
  (OrderedMap.find?_foldl_insert _ _ _ _ _).trans Option.or_none

theorem lookup_seeded (key : CallKey) :
    settings.seeded.policies.lookup key =
      lastValue? PolicySeed.key? PolicySeed.allowed settings.policies (some key) := by
  rw [← lastSaid?_filterMap_parsed?]
  exact (AllowList.lookup_foldl_record _ _ _).trans Option.or_none

theorem routeOf_seeded (entrypoint : Address) :
    settings.seeded.routeOf entrypoint =
      lastValue? RouteSeed.entrypoint RouteSeed.destination settings.routes entrypoint :=
  (OrderedMap.find?_foldl_insert _ _ _ _ _).trans Option.or_none

end Seeded

/-- Valid settings, where nothing is saved yet, begin a governance exactly if they allow or forbid
proper calls only and none of their entrypoints is the zero address. Nothing in their validity says
so. The governance that begins has the one admin and no other holder of a role, and each chain,
call and entrypoint is as the last entry about it says, and as nothing if there is none. If none
begins, it is for an entry of the allow-list with a part that is zero, or for an entrypoint that is
the zero address. -/
theorem valid_opens_iff {settings : Settings} {disk : Disk}
    (valid : settings.validate = .ok ()) (unsaved : disk.contains settings.statePath = false) :
    ((∃ governance, settings.openState disk = .ok governance) ↔
      (∀ seed ∈ settings.policies, seed.Proper) ∧
        ∀ seed ∈ settings.routes, seed.entrypoint.isZero = false) ∧
    (∀ governance, settings.openState disk = .ok governance →
      (∀ role account, governance.roles.holds role account = true ↔
        role = .admin ∧ account = settings.admin) ∧
      (∀ chain, governance.mediatorOf chain =
        lastValue? MediatorSeed.chain MediatorSeed.address settings.mediators chain) ∧
      (∀ key, governance.policies.lookup key =
        lastValue? PolicySeed.key? PolicySeed.allowed settings.policies (some key)) ∧
      ∀ entrypoint, governance.routeOf entrypoint =
        lastValue? RouteSeed.entrypoint RouteSeed.destination settings.routes entrypoint) ∧
    ∀ error, settings.openState disk = .error error →
      (∃ before seed after fault, settings.policies = before ++ seed :: after ∧
        (∀ earlier ∈ before, earlier.Proper) ∧
        seed.fault? before.length = some fault ∧ error = .seed (.governance (.policy fault))) ∨
      ∃ seed ∈ settings.routes, seed.entrypoint.isZero = true ∧
        error = .seed (.governance (.mediator (.zeroAddress seed.destination))) := by
  obtain ⟨-, -, -, mediated, selected⟩ := settings.validate_eq_ok_iff.mp valid
  have hopen : settings.openState disk = settings.seed.mapError .seed := by
    rw [openState, if_neg (ne_true_of_eq_false unsaved)]
  refine ⟨?_, fun governance hgovernance => ?_, fun error herror => ?_⟩
  · simp only [hopen, except_mapError_eq_ok_iff, seed_eq_ok_iff, exists_and_left, exists_eq,
      and_true]
    exact ⟨fun seedable => ⟨seedable.policies, seedable.routes⟩,
      fun ⟨hproper, hroutes⟩ => ⟨mediated, selected, hproper, hroutes⟩⟩
  · rw [hopen, except_mapError_eq_ok_iff, seed_eq_ok_iff] at hgovernance
    obtain ⟨-, rfl⟩ := hgovernance
    exact ⟨holds_ofAdmin_iff settings.admin, settings.mediatorOf_seeded, settings.lookup_seeded,
      settings.routeOf_seeded⟩
  · rw [hopen, except_mapError_eq_error_iff] at herror
    obtain ⟨refusal, hseed, rfl⟩ := herror
    rcases exists_of_seed_error mediated selected hseed with
      ⟨before, seed, after, fault, hsplit, hbefore, hfault, rfl⟩ | ⟨seed, hmem, hzero, rfl⟩
    · exact .inl ⟨before, seed, after, fault, hsplit, hbefore, hfault, rfl⟩
    · exact .inr ⟨seed, hmem, hzero, rfl⟩

namespace Rehearsal

/-- Valid settings that list a mediator, a call and an entrypoint, two of them twice. -/
def settings : Settings :=
  { Settings.default with
    mediators := [⟨7, FixedBytes.replicate 1⟩, ⟨7, FixedBytes.replicate 2⟩]
    policies := [⟨FixedBytes.replicate 8, "0xa9059cbb", 1, true⟩,
      ⟨FixedBytes.replicate 8, "A9059CBB", 1, false⟩]
    routes := [⟨FixedBytes.replicate 3, 5⟩] }

/-- The governance begins, and the last entries count, however their selectors are spelled. -/
theorem valid_opens_last_entries :
    ∃ governance, settings.openState Disk.empty = .ok governance ∧
      governance.mediatorOf 7 = some (FixedBytes.replicate 2) ∧
      governance.policies.lookup
        ⟨FixedBytes.replicate 8, ⟨[0xa9, 0x05, 0x9c, 0xbb], rfl⟩, 1⟩ = some false ∧
      governance.routeOf (FixedBytes.replicate 3) = some 5 ∧
      governance.routeOf (FixedBytes.replicate 4) = none := by
  obtain ⟨hopens, hbegins, -⟩ := valid_opens_iff (show settings.validate = .ok () by rfl)
    (show Disk.empty.contains settings.statePath = false by rfl)
  obtain ⟨governance, hopened⟩ := hopens.mpr
    ⟨fun seed hmem => (seed.fault?_eq_none_iff 0).mp (by revert seed; decide +kernel), by decide⟩
  obtain ⟨-, hmediator, hlookup, hroute⟩ := hbegins governance hopened
  refine ⟨governance, hopened, ?_, ?_, ?_, ?_⟩
  · rw [hmediator]
    decide
  · rw [hlookup]
    decide +kernel
  · rw [hroute]
    decide
  · rw [hroute]
    decide

/-- Valid settings whose only entrypoint is the zero address. -/
def zeroEntrypoint : Settings :=
  { Settings.default with routes := [⟨FixedBytes.replicate 0, 5⟩] }

/-- Settings are valid and begin no governance, because of their entrypoint. -/
theorem valid_unopened :
    zeroEntrypoint.validate = .ok () ∧
      Disk.empty.contains zeroEntrypoint.statePath = false ∧
      zeroEntrypoint.openState Disk.empty =
        .error (.seed (.governance (.mediator (.zeroAddress 5)))) := by
  exact ⟨by rfl, by rfl, by rfl⟩

end Rehearsal

end Settings

end GovernanceRelay
