import GovernanceRelay.Proofs.AllowList.AuditLog
import GovernanceRelay.Proofs.Governance.Invariant
import GovernanceRelay.Proofs.OrderedMap
import GovernanceRelay.Proofs.Snapshot.Form

/-!
# Restoring a governance

All that is checked of a snapshot is its version and its mediators, and the parts of the governance
are those that its lists lead to (`Governance.ofSnapshot_eq_ok_iff`).

A snapshot tells less than a governance might hold: it lists who holds which role, so a role without
a holder leaves no trace in it, and it lists only the changes of the allow-list, not the settings.
A governance that keeps no role without a holder, trusts the zero address for no chain and has the
settings that its changes lead to is restored from its snapshot as it was
(`Governance.ofSnapshot_snapshot`). Every governance is of this kind that began with one admin or
was restored from whatever snapshot, and every request keeps it so
(`Governance.Reached.restorable`).
-/

set_option autoImplicit false

namespace GovernanceRelay

/-! ## Roles from their holders -/

namespace Authority

/-- The roles are those granted to the holders that are listed. -/
theorem grantAll_assignments {table : Authority} (peopled : table.Peopled) :
    grantAll OrderedMap.empty table.assignments = table := by
  refine eq_of_holds (peopled_empty.grantAll _) peopled fun role account => ?_
  have hempty : holds OrderedMap.empty role account = false := rfl
  rw [Bool.eq_iff_iff, holds_grantAll, mem_assignments_iff, hempty]
  simp

end Authority

namespace Governance

/-! ## Mediators one after the other -/

/-- Mediators are accepted one after the other exactly if none of them is the zero address. -/
theorem assignAll_eq_ok_iff (mediators done : Mediators) (named : List (ChainId × Address)) :
    assignAll mediators named = .ok done ↔
      (∀ entry ∈ named, entry.2.isZero = false) ∧
        done = named.foldl (fun map entry => map.insert entry.1 entry.2) mediators := by
  induction named generalizing mediators with
  | nil => simpa [assignAll] using eq_comm
  | cons entry rest ih =>
    rw [assignAll, Mediators.assign, List.forall_mem_cons, List.foldl_cons]
    cases hzero : entry.2.isZero with
    | true => simp
    | false => simpa using ih (mediators.insert entry.1 entry.2)

/-! ## All parts from the lists -/

/-- The governance that the lists of a snapshot lead to. -/
def listed (saved : Snapshot) : Governance where
  roles := Authority.grantAll OrderedMap.empty saved.roles
  mediators := OrderedMap.ofList saved.mediators
  policies := AllowList.ofHistory saved.history
  routes := OrderedMap.ofList saved.routes

/-- All that is checked is the version and the mediators. -/
theorem ofSnapshot_eq_ok_iff (saved : Snapshot) (governance : Governance) :
    ofSnapshot saved = .ok governance ↔
      (saved.version = Snapshot.currentVersion ∧
        ∀ named ∈ saved.mediators, named.2.isZero = false) ∧ governance = listed saved := by
  rw [ofSnapshot]
  by_cases hversion : saved.version = Snapshot.currentVersion
  · rw [if_neg (not_not_intro hversion)]
    cases hassign : assignAll OrderedMap.empty saved.mediators with
    | error error =>
      -- the mediators are refused, so one of them is the zero address
      have hzero : ¬ ∀ named ∈ saved.mediators, named.2.isZero = false := by
        intro hnonzero
        rw [(assignAll_eq_ok_iff _ _ _).mpr ⟨hnonzero, rfl⟩] at hassign
        cases hassign
      constructor
      · intro h
        cases h
      · rintro ⟨⟨-, hnonzero⟩, -⟩
        exact absurd hnonzero hzero
    | ok mediators =>
      obtain ⟨hnonzero, rfl⟩ := (assignAll_eq_ok_iff _ _ _).mp hassign
      rw [Except.ok.injEq]
      constructor
      · rintro rfl
        exact ⟨⟨hversion, hnonzero⟩, rfl⟩
      · rintro ⟨-, rfl⟩
        rfl
  · rw [if_pos hversion]
    simp [hversion]

/-! ## What is restored as it was -/

/-- A governance of which a snapshot leaves nothing out. -/
structure Restorable (governance : Governance) : Prop where
  /-- No role is kept without a holder. -/
  peopled : governance.roles.Peopled
  /-- The zero address mediates no chain. -/
  mediators : ∀ chain mediator, governance.mediators.find? chain = some mediator →
    mediator.isZero = false
  /-- The settings of the allow-list are those that its changes lead to. -/
  settled : governance.policies.Settled

/-- Nothing is lost in a snapshot. -/
theorem ofSnapshot_snapshot {governance : Governance} (restorable : governance.Restorable) :
    ofSnapshot governance.snapshot = .ok governance := by
  -- the list of mediators is accepted, since none of them is the zero address
  have hmediators : ∀ named ∈ governance.snapshot.mediators, named.2.isZero = false :=
    fun named hmem => restorable.mediators named.1 named.2
      ((governance.mediators.find?_eq_some_iff named.1 named.2).mpr hmem)
  refine (ofSnapshot_eq_ok_iff _ _).mpr ⟨⟨rfl, hmediators⟩, ?_⟩
  simp only [listed, snapshot, Authority.grantAll_assignments restorable.peopled,
    restorable.settled.ofHistory_history, OrderedMap.ofList_entries]

theorem restorable_create (admin : Address) : (create admin).Restorable where
  peopled := Authority.peopled_ofAdmin admin
  mediators chain mediator h := by cases h
  settled := rfl

theorem nonzero_foldl_insert {mediators : Mediators}
    (nonzero : ∀ chain mediator, mediators.find? chain = some mediator → mediator.isZero = false)
    {named : List (ChainId × Address)} (hnamed : ∀ entry ∈ named, entry.2.isZero = false) :
    ∀ chain mediator,
      (named.foldl (fun map entry => map.insert entry.1 entry.2) mediators).find? chain =
        some mediator → mediator.isZero = false := by
  induction named generalizing mediators with
  | nil => exact nonzero
  | cons entry rest ih =>
    obtain ⟨hentry, hrest⟩ := List.forall_mem_cons.mp hnamed
    exact ih (Mediators.nonzero_insert nonzero hentry entry.1) hrest

/-- Whatever snapshot a governance is restored from, its own leaves nothing out. -/
theorem restorable_ofSnapshot {saved : Snapshot} {governance : Governance}
    (h : ofSnapshot saved = .ok governance) : governance.Restorable := by
  obtain ⟨⟨-, hnonzero⟩, rfl⟩ := (ofSnapshot_eq_ok_iff _ _).mp h
  exact ⟨Authority.peopled_empty.grantAll saved.roles,
    nonzero_foldl_insert (fun chain mediator hfind => by cases hfind) hnonzero, rfl⟩

/-- A request that is granted adds nothing that a snapshot would leave out. -/
theorem Restorable.granted {governance : Governance} (restorable : governance.Restorable)
    {request : GovernanceRequest} {done : GovernanceReport × Governance}
    (granted : governance.Granted request done) : done.2.Restorable := by
  cases granted with
  | @setMediator caller mediator chain hmediator =>
    exact { restorable with
      mediators := Mediators.nonzero_insert restorable.mediators hmediator chain }
  | setPolicies hupdate => exact { restorable with settled := restorable.settled.update hupdate }
  | setPolicyColumns hupdate =>
    obtain ⟨entries, -, hentries⟩ := (AllowList.updateColumns_eq_ok_iff _ _ _).mp hupdate
    exact { restorable with settled := restorable.settled.update hentries }
  | setRoute _ => exact { restorable with }
  | handOver => exact { restorable with peopled := restorable.peopled.handover _ _ _ }
  | handOverTogether _ => exact { restorable with peopled := restorable.peopled.handover _ _ _ }

theorem Restorable.after {governance : Governance} (restorable : governance.Restorable)
    (request : GovernanceRequest) : (governance.after request).Restorable :=
  holds_after restorable fun _ granted => restorable.granted granted

/-! ## Governances in use -/

/-- A governance that began with one admin or was restored from a snapshot, after any requests. -/
inductive Reached : Governance → Prop
  /-- It begins with one admin. -/
  | created (admin : Address) : Reached (create admin)
  /-- It is restored from a snapshot that is not refused. -/
  | restored {saved : Snapshot} {governance : Governance} :
      ofSnapshot saved = .ok governance → Reached governance
  /-- Something is asked of it, granted or not. -/
  | asked {governance : Governance} (request : GovernanceRequest) :
      Reached governance → Reached (governance.after request)

theorem Reached.restorable {governance : Governance} (reached : governance.Reached) :
    governance.Restorable := by
  induction reached with
  | created admin => exact restorable_create admin
  | restored h => exact restorable_ofSnapshot h
  | asked request _ ih => exact ih.after request

/-- A request that is granted leads from one governance in use to another. -/
theorem Reached.of_answer {governance : Governance} (reached : governance.Reached)
    {request : GovernanceRequest} {done : GovernanceReport × Governance}
    (h : governance.answer request = .ok done) : done.2.Reached :=
  after_of_answer h ▸ Reached.asked request reached

theorem Reached.run {governance : Governance} (reached : governance.Reached)
    (requests : List GovernanceRequest) : (governance.run requests).Reached := by
  induction requests generalizing governance with
  | nil => exact reached
  | cons request rest ih => exact ih (.asked request reached)

/-- What is written of a governance in use is read as that governance. -/
theorem Reached.ofBytes_eq_ok {governance : Governance} (reached : governance.Reached)
    {bytes : Bytes} (written : governance.snapshot.encode = .ok bytes) :
    ofBytes bytes = .ok governance := by
  rw [ofBytes, (Snapshot.oneForm.restored _ _).mpr written]
  exact ofSnapshot_snapshot reached.restorable

/-- A governance in use whose snapshot can be counted is saved and restored as it was, in all of its
parts, and no other such governance is saved as the same bytes. -/
theorem restored_as_it_was {governance : Governance} (reached : governance.Reached)
    (countable : governance.snapshot.Countable) :
    ∃ bytes, governance.snapshot.encode = .ok bytes ∧ ofBytes bytes = .ok governance ∧
      ∀ other : Governance, other.Reached →
        (other.snapshot.encode = .ok bytes ↔ other = governance) := by
  have hwritten := Snapshot.oneForm.written governance.snapshot countable
  have hrestored := reached.ofBytes_eq_ok hwritten
  refine ⟨_, hwritten, hrestored, fun other otherReached => ⟨fun hsame => ?_, ?_⟩⟩
  · -- both are read from the same bytes
    exact Except.ok.inj ((otherReached.ofBytes_eq_ok hsame).symm.trans hrestored)
  · rintro rfl
    exact hwritten

namespace Rehearsal

/-- The account that hands its roles over. -/
def giver : Address := FixedBytes.replicate 1

/-- The account that takes them. -/
def taker : Address := FixedBytes.replicate 2

/-- A snapshot in no order, which names a holder twice and a chain with two mediators. -/
def disordered : Snapshot where
  version := 1
  roles := [(.executor, giver), (.admin, giver), (.executor, giver)]
  mediators := [(5, giver), (4, giver), (5, taker)]
  history := [⟨7, ⟨taker, FixedBytes.replicate 9, 3⟩, some true, false⟩]
  routes := [(taker, 4), (giver, 2)]

/-- The governance that is restored from it. -/
def restored : Governance where
  roles := (OrderedMap.empty.insert .executor (OrderedSet.ofList [giver])).insert .admin
    (OrderedSet.ofList [giver])
  mediators := OrderedMap.ofList [(4, giver), (5, taker)]
  policies := AllowList.ofHistory disordered.history
  routes := OrderedMap.ofList [(giver, 2), (taker, 4)]

/-- The governance after its only admin has handed over all roles and the new one has named a
mediator. -/
def handed : Governance :=
  (restored.after (.handOver giver giver taker [.admin, .executor])).after
    (.setMediator taker 9 giver)

/-- Nothing of it is lost in the next snapshot. -/
theorem restored_after_handover :
    ofSnapshot disordered = .ok restored ∧ handed.mediatorOf 9 = some giver ∧
      ∃ bytes, handed.snapshot.encode = .ok bytes ∧ ofBytes bytes = .ok handed := by
  have hrestored : ofSnapshot disordered = .ok restored := by rfl
  have reached : handed.Reached := .asked _ (.asked _ (.restored hrestored))
  have countable : handed.snapshot.Countable :=
    ⟨by decide +kernel, by decide +kernel, by decide +kernel, by decide +kernel⟩
  obtain ⟨bytes, hwritten, hread, -⟩ := restored_as_it_was reached countable
  exact ⟨hrestored, by decide +kernel, bytes, hwritten, hread⟩

end Rehearsal

end Governance

end GovernanceRelay
