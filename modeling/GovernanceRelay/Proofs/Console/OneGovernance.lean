import GovernanceRelay.Proofs.Console.Commands
import GovernanceRelay.Proofs.Storage

/-!
# One governance behind all commands

Every command opens the governance anew, and every change is saved before the command ends. Still
the commands work as if there were one governance in memory: it begins as the settings say, and the
orders that succeed are its requests, in order (`Order.one_governance`). At every moment the file has
the governance as it is, or there is no file and it is as it began. An order that fails, or makes no
request, does not touch the file.
-/

set_option autoImplicit false

namespace GovernanceRelay

open GovernanceRelay.Action

/-! ## One request -/

namespace Settings

variable {settings : Settings} {place : Location} {seeded : Governance} {disk : Disk}
  {requests : List GovernanceRequest}

theorem Keeps.amend_eq (keeps : Keeps settings place seeded disk requests)
    (begins : settings.seed = .ok seeded) (request : GovernanceRequest) :
    settings.amend request disk = settings.ask (seeded.run requests) request disk := by
  rw [amend, keeps.openState begins]

/-- A request either fails and leaves the files, or it is one more request that is kept. -/
theorem Keeps.amend_cases (keeps : Keeps settings place seeded disk requests)
    (begins : settings.seed = .ok seeded) (request : GovernanceRequest) :
    (∃ failure, settings.amend request disk = (.error failure, disk)) ∨
      ∃ after, settings.amend request disk = (.ok (), after) ∧
        Keeps settings place seeded after (requests ++ [request]) ∧
        Disk.SameDirectories disk after := by
  rw [keeps.amend_eq begins, ask]
  cases hanswer : (seeded.run requests).answer request with
  | error error => exact .inl ⟨_, rfl⟩
  | ok done =>
    -- what is granted in memory is what is saved
    have hchanged : done.2 = seeded.run (requests ++ [request]) := by
      rw [Governance.run_concat, Governance.after_of_answer hanswer]
    change (∃ failure, settings.store done.2 disk = _) ∨ ∃ after, settings.store done.2 disk = _ ∧ _
    rw [store, hchanged]
    cases hsaved : settings.saveState (seeded.run (requests ++ [request])) disk with
    | error error => exact .inl ⟨_, rfl⟩
    | ok after =>
      obtain ⟨bytes, -, hwrite⟩ := write_of_saveState hsaved
      exact .inr ⟨after, rfl, keeps.save hsaved, Disk.sameDirectories_write hwrite⟩

/-- A request that the governance refuses fails for this reason. -/
theorem Keeps.amend_of_refused (keeps : Keeps settings place seeded disk requests)
    (begins : settings.seed = .ok seeded) {request : GovernanceRequest} {error : GovernanceError}
    (refused : (seeded.run requests).answer request = .error error) :
    (settings.amend request disk).1 = .error (.governance error) := by
  rw [keeps.amend_eq begins, ask, refused]

/-- A request that the governance grants succeeds exactly if the outcome can be saved. -/
theorem Keeps.amend_of_granted (keeps : Keeps settings place seeded disk requests)
    (begins : settings.seed = .ok seeded) {request : GovernanceRequest}
    {done : GovernanceReport × Governance}
    (granted : (seeded.run requests).answer request = .ok done) :
    (settings.amend request disk).1 = .ok () ↔ done.2.snapshot.Countable := by
  rw [← exists_saveState_iff keeps.writable, keeps.amend_eq begins, ask, granted]
  change (settings.store done.2 disk).1 = _ ↔ _
  rw [store]
  cases settings.saveState done.2 disk <;> simp

end Settings

/-! ## One order -/

/-- The desk after an order. -/
def Desk.carryOut (settings : Settings) (settingsPath : String) (desk : Desk) (order : Order) :
    Desk :=
  (order.execute settings settingsPath desk).2

namespace Order

/-- The failure of the order of a moment, unless it succeeds. -/
def result (settings : Settings) (settingsPath : String) (moment : Moment Desk Order) :
    Except Failure Unit :=
  (moment.event.execute settings settingsPath moment.before).1

/-- The request of the order of a moment, if it makes one and succeeds. -/
def granted? (settings : Settings) (settingsPath : String) (moment : Moment Desk Order) :
    Option GovernanceRequest :=
  match result settings settingsPath moment with
  | .ok () => moment.event.request?
  | .error _ => none

theorem granted?_eq_some_iff {settings : Settings} {settingsPath : String}
    {moment : Moment Desk Order} {request : GovernanceRequest} :
    granted? settings settingsPath moment = some request ↔
      result settings settingsPath moment = .ok () ∧ moment.event.request? = some request := by
  rw [granted?]
  cases result settings settingsPath moment <;> simp

theorem granted?_eq_none_iff {settings : Settings} {settingsPath : String}
    {moment : Moment Desk Order} :
    granted? settings settingsPath moment = none ↔
      result settings settingsPath moment ≠ .ok () ∨ moment.event.request? = none := by
  rw [granted?]
  cases result settings settingsPath moment <;> simp

/-- A desk keeps the governance, and not in the file with the settings. -/
structure Kept (settings : Settings) (settingsPath : String) (place : Location)
    (seeded : Governance) (desk : Desk) (requests : List GovernanceRequest) : Prop where
  /-- The disk keeps the governance. -/
  keeps : settings.Keeps place seeded desk.disk requests
  /-- The settings are in another file. -/
  apart : desk.disk.locate settingsPath ≠ .ok place

section Step

variable {settings : Settings} {settingsPath : String} {place : Location} {seeded : Governance}
  {desk : Desk} {requests : List GovernanceRequest}

/-- After an order the governance is kept with one more request if the order succeeds and makes one,
and otherwise the file is as it was. -/
theorem Kept.carryOut (kept : Kept settings settingsPath place seeded desk requests)
    (begins : settings.seed = .ok seeded) (order : Order) :
    let moment : Moment Desk Order := ⟨desk, order, desk.carryOut settings settingsPath order⟩
    Kept settings settingsPath place seeded moment.after
        (requests ++ (granted? settings settingsPath moment).toList) ∧
      (granted? settings settingsPath moment = none →
        moment.after.disk.read settings.statePath = desk.disk.read settings.statePath) := by
  intro moment
  -- where no file changes, the governance is kept as it was
  have idle (hdisk : moment.after.disk = desk.disk) :
      Kept settings settingsPath place seeded moment.after requests ∧
        moment.after.disk.read settings.statePath = desk.disk.read settings.statePath :=
    ⟨⟨hdisk ▸ kept.keeps, hdisk ▸ kept.apart⟩, congrArg (Disk.read · _) hdisk⟩
  cases hrequest : order.request? with
  | none =>
    have hgranted : granted? settings settingsPath moment = none :=
      granted?_eq_none_iff.mpr (.inr hrequest)
    rw [hgranted, Option.toList_none, List.append_nil]
    obtain hdisk | ⟨content, hwrite⟩ := writesOnly_execute settings settingsPath hrequest desk
    · obtain ⟨hkept, hread⟩ := idle hdisk
      exact ⟨hkept, fun _ => hread⟩
    · -- the settings are written, which are in another file
      obtain ⟨hkeeps, hread⟩ := kept.keeps.write_other kept.apart hwrite
      have hapart := mt (Disk.sameDirectories_write hwrite).locate_iff.mpr kept.apart
      exact ⟨⟨hkeeps, hapart⟩, fun _ => hread⟩
  | some request =>
    have hdoes := does_execute settings settingsPath hrequest desk
    obtain ⟨failure, hfails⟩ | ⟨after, hsucceeds, hkeeps, hsame⟩ :=
      kept.keeps.amend_cases begins request
    · obtain ⟨hresult, hdisk⟩ := Prod.mk.inj (hdoes.trans hfails)
      have hgranted : granted? settings settingsPath moment = none := by
        refine granted?_eq_none_iff.mpr (.inl fun h => ?_)
        cases hresult.symm.trans h
      rw [hgranted, Option.toList_none, List.append_nil]
      obtain ⟨hkept, hread⟩ := idle hdisk
      exact ⟨hkept, fun _ => hread⟩
    · obtain ⟨hresult, hdisk⟩ := Prod.mk.inj (hdoes.trans hsucceeds)
      have hgranted : granted? settings settingsPath moment = some request :=
        granted?_eq_some_iff.mpr ⟨hresult, hrequest⟩
      rw [hgranted, Option.toList_some]
      have hapart := mt hsame.locate_iff.mpr kept.apart
      exact ⟨⟨hdisk ▸ hkeeps, hdisk ▸ hapart⟩, fun h => by cases h⟩

end Step

/-! ## All orders -/

section Run

variable (settings : Settings) (settingsPath : String)

/-- The requests of the orders that succeed, in order. -/
def grantedRequests (moments : List (Moment Desk Order)) : List GovernanceRequest :=
  moments.filterMap (granted? settings settingsPath)

theorem grantedRequests_concat (past : List (Moment Desk Order)) (moment : Moment Desk Order) :
    grantedRequests settings settingsPath (past ++ [moment]) =
      grantedRequests settings settingsPath past
        ++ (granted? settings settingsPath moment).toList := by
  rw [grantedRequests, List.filterMap_append]
  cases hgranted : granted? settings settingsPath moment <;> simp [grantedRequests, hgranted]

theorem grantedRequests_ne_nil_iff (moments : List (Moment Desk Order)) :
    grantedRequests settings settingsPath moments ≠ [] ↔
      ∃ moment ∈ moments, result settings settingsPath moment = .ok () ∧
        moment.event.request? ≠ none := by
  constructor
  · intro hsome
    obtain ⟨request, hmem⟩ := List.exists_mem_of_ne_nil _ hsome
    obtain ⟨moment, hmoment, hgranted⟩ := List.mem_filterMap.mp hmem
    obtain ⟨hresult, hrequest⟩ := granted?_eq_some_iff.mp hgranted
    exact ⟨moment, hmoment, hresult, by simp [hrequest]⟩
  · rintro ⟨moment, hmoment, hresult, hrequest⟩
    obtain ⟨request, hsome⟩ := Option.ne_none_iff_exists'.mp hrequest
    have hgranted := granted?_eq_some_iff.mpr ⟨hresult, hsome⟩
    exact List.ne_nil_of_mem (List.mem_filterMap.mpr ⟨moment, hmoment, hgranted⟩)

variable {settings settingsPath} {place : Location} {seeded : Governance} {start : Desk}

/-- The governance is kept through all orders, with the requests of those that succeed. -/
theorem Kept.orders (kept : Kept settings settingsPath place seeded start [])
    (begins : settings.seed = .ok seeded) (orders : List Order) :
    Kept settings settingsPath place seeded
      (orders.foldl (Desk.carryOut settings settingsPath) start)
      (grantedRequests settings settingsPath
        (course (Desk.carryOut settings settingsPath) start orders)) := by
  refine course_induction
    (P := fun desk past => Kept settings settingsPath place seeded desk
      (grantedRequests settings settingsPath past))
    kept (fun desk past order hpast => ?_) orders
  rw [grantedRequests_concat]
  exact (hpast.carryOut begins order).1

/-- What a moment of the run meets is kept, with the requests of the orders before that succeed. -/
theorem Kept.before (kept : Kept settings settingsPath place seeded start [])
    (begins : settings.seed = .ok seeded) {orders : List Order}
    {past later : List (Moment Desk Order)} {moment : Moment Desk Order}
    (hsplit : course (Desk.carryOut settings settingsPath) start orders =
      past ++ moment :: later) :
    Kept settings settingsPath place seeded moment.before
        (grantedRequests settings settingsPath past) ∧
      moment.after = moment.before.carryOut settings settingsPath moment.event := by
  obtain ⟨earlier, -, -, hpast, hbefore, hafter⟩ := course_eq_append_cons hsplit
  refine ⟨?_, hafter⟩
  rw [hpast, hbefore]
  exact kept.orders begins earlier

/-- Let a governance begin as the settings say, in a file that can be written to, that is not there
yet, and that is not the file with the settings. Whatever orders are carried out, by whomever: what
is opened then is the governance that began so, after the requests of the orders that succeeded; the
file is there exactly if there was such a request; an order that fails or makes no request leaves
the file as it was, or absent; and a request succeeds exactly if the governance as it is then grants
it and the outcome can be saved, and fails with the refusal otherwise. -/
theorem one_governance (begins : settings.seed = .ok seeded)
    (writable : start.disk.target settings.statePath = .ok place)
    (absent : start.disk.contains settings.statePath = false)
    (apart : start.disk.locate settingsPath ≠ .ok place) (orders : List Order) :
    let desk := orders.foldl (Desk.carryOut settings settingsPath) start
    let moments := course (Desk.carryOut settings settingsPath) start orders
    settings.openState desk.disk =
        .ok (seeded.run (grantedRequests settings settingsPath moments)) ∧
    (desk.disk.contains settings.statePath = true ↔
      ∃ moment ∈ moments, result settings settingsPath moment = .ok () ∧
        moment.event.request? ≠ none) ∧
    (∀ moment ∈ moments,
      result settings settingsPath moment ≠ .ok () ∨ moment.event.request? = none →
      moment.after.disk.read settings.statePath = moment.before.disk.read settings.statePath) ∧
    (∀ past moment later request, moments = past ++ moment :: later →
      moment.event.request? = some request →
      let governance := seeded.run (grantedRequests settings settingsPath past)
      (∀ error, governance.answer request = .error error →
        result settings settingsPath moment = .error (.governance error)) ∧
      (∀ done, governance.answer request = .ok done →
        (result settings settingsPath moment = .ok () ↔ done.2.snapshot.Countable))) := by
  intro desk moments
  have kept : Kept settings settingsPath place seeded start [] := by
    have hnone : start.disk.find? place = none := by
      have hcontains := Disk.contains_iff_of_target writable
      simpa [absent] using hcontains
    exact ⟨⟨writable, fun _ => hnone, fun h => absurd rfl h⟩, apart⟩
  have keptNow := kept.orders begins orders
  refine ⟨keptNow.keeps.openState begins, ?_, fun moment hmem hidle => ?_,
    fun past moment later request hsplit hrequest => ?_⟩
  · rw [keptNow.keeps.contains_iff, grantedRequests_ne_nil_iff]
  · obtain ⟨past, later, hsplit⟩ := List.append_of_mem hmem
    obtain ⟨keptBefore, hafter⟩ := kept.before begins hsplit
    have hread := (keptBefore.carryOut begins moment.event).2
    rw [← hafter] at hread
    exact hread (granted?_eq_none_iff.mpr hidle)
  · obtain ⟨keptBefore, -⟩ := kept.before begins hsplit
    have hdoes := congrArg Prod.fst (does_execute settings settingsPath hrequest moment.before)
    refine ⟨fun error hrefused => ?_, fun done hgranted => ?_⟩
    · exact hdoes.trans (keptBefore.keeps.amend_of_refused begins hrefused)
    · rw [← keptBefore.keeps.amend_of_granted begins hgranted, ← hdoes]
      exact Iff.rfl

end Run

namespace Rehearsal

/-- The account that takes over from the admin. -/
def successor : Address := FixedBytes.replicate 8

/-- An account without a role. -/
def stranger : Address := FixedBytes.replicate 7

/-- Settings that list a mediator and an allowed call. -/
def settings : Settings :=
  { Settings.default with
    statePath := "state.bin"
    mediators := [⟨5, stranger⟩]
    policies := [⟨successor, "0xdededede", 5, true⟩] }

/-- The governance that begins so. -/
def seeded : Governance :=
  ((Governance.create settings.admin).after (.setMediator settings.admin 5 stranger)).after
    (.setPolicies settings.admin
      [⟨⟨successor, FixedBytes.replicate 0xde, 5⟩, true⟩])

/-- A stranger is refused, a handover is only told and then carried out, and the new admin changes
what there is, while the settings are written to a file of their own. -/
def orders : List Order :=
  [⟨stranger, .setMediator 9 stranger⟩,
    ⟨settings.admin, .transition settings.admin successor [.admin] true true⟩,
    ⟨settings.admin, .review "batch.json" none none⟩,
    ⟨settings.admin, .transition settings.admin successor [.admin] true false⟩,
    ⟨settings.admin, .route stranger 3⟩,
    ⟨successor, .setPolicy stranger "0x01010101" 5 false⟩,
    ⟨successor, .init false⟩,
    ⟨successor, .route stranger 3⟩,
    ⟨successor, .listPolicies⟩]

/-- What is granted of it. -/
def requests : List GovernanceRequest :=
  [.handOverTogether settings.admin settings.admin successor [.admin],
    .setPolicies successor [⟨⟨stranger, FixedBytes.replicate 1, 5⟩, false⟩],
    .setRoute successor stranger 3]

/-- The handover and the changes of the new admin are all that happens to the governance. -/
theorem one_governance_handed_over :
    let start := Desk.ofDisk Disk.empty
    let desk := orders.foldl (Desk.carryOut settings "relaygate.toml") start
    settings.openState desk.disk = .ok (seeded.run requests) ∧
      desk.disk.contains settings.statePath = true ∧
      desk.disk.contains "relaygate.toml" = true := by
  intro start desk
  have begins : settings.seed = .ok seeded := by rfl
  have writable : start.disk.target settings.statePath = .ok ["state.bin"] := by rfl
  have apart : start.disk.locate "relaygate.toml" ≠ .ok ["state.bin"] := by
    have hlocate : start.disk.locate "relaygate.toml" = .ok ["relaygate.toml"] := by rfl
    simp [hlocate]
  obtain ⟨hopened, -⟩ := one_governance begins writable (by rfl) apart orders
  have hgranted : seeded.run (grantedRequests settings "relaygate.toml"
      (course (Desk.carryOut settings "relaygate.toml") start orders)) = seeded.run requests := by
    decide +kernel
  rw [hgranted] at hopened
  exact ⟨hopened, by decide +kernel, by decide +kernel⟩

end Rehearsal

end Order

end GovernanceRelay
