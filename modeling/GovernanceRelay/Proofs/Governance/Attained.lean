import GovernanceRelay.Proofs.AllowList.AuditLog
import GovernanceRelay.Proofs.Governance.Invariant

/-!
# Which governances requests lead to

Whatever is asked of a governance that began with one admin, it stays in order and the history of its
allow-list stays an audit log (`Governance.Attained.audited`). Nothing else is kept at all times: to
every governance that is in order and has an audit log there are requests that lead to it from one
admin alone. One of its admins gives every role to its holders, names the mediators and entrypoints
and repeats the changes of the allow-list one after the other (`Governance.attained_iff`).
-/

set_option autoImplicit false

namespace GovernanceRelay

/-! ## An audit log is what its changes record -/

namespace AllowList

/-- Recording the next change of an audit log is what its history goes on with. -/
theorem Audited.record_ofHistory_take {list : AllowList} (audited : list.Audited) {index : Nat}
    {change : PolicyChange} (h : list.history[index]? = some change) :
    (ofHistory (list.history.take index)).record change.entry =
      ofHistory (list.history.take (index + 1)) := by
  have hindex : index < list.history.length := (List.getElem?_eq_some_iff.mp h).1
  have htake : list.history.take (index + 1) = list.history.take index ++ [change] := by
    rw [List.take_add_one, h, Option.toList_some]
  have hlength : (list.history.take index).length = index :=
    List.length_take_of_le (Nat.le_of_lt hindex)
  -- the change that is recorded has the number and the earlier setting that the log gives it
  have hchange : (⟨UInt64.ofNat (list.history.take index).length, change.key,
      (ofHistory (list.history.take index)).lookup change.key, change.allowed⟩ : PolicyChange) =
        change := by
    rw [hlength, ← audited.numbered index change h, ← audited.previous index change h]
  rw [htake]
  change AllowList.mk ((ofHistory (list.history.take index)).settings.insert change.key
    change.allowed) (list.history.take index ++ [_]) = _
  rw [← settings_ofHistory_concat]
  exact congrArg _ (congrArg _ (congrArg (fun last => [last]) hchange))

/-- An allow-list with an audit log comes about by its changes, recorded one after the other. -/
theorem Audited.foldl_record {list : AllowList} (audited : list.Audited) :
    list.history.foldl (fun earlier change => earlier.record change.entry) empty = list := by
  have front : ∀ count ≤ list.history.length,
      (list.history.take count).foldl (fun earlier change => earlier.record change.entry) empty =
        ofHistory (list.history.take count) := by
    intro count
    induction count with
    | zero => exact fun _ => rfl
    | succ count ih =>
      intro hle
      have hnext := List.getElem?_eq_getElem hle
      rw [← audited.record_ofHistory_take hnext, List.take_add_one, hnext, Option.toList_some,
        List.foldl_append, ih (Nat.le_of_succ_le hle)]
      rfl
  have hall := front list.history.length (Nat.le_refl _)
  rwa [List.take_length, audited.settled.ofHistory_history] at hall

end AllowList

namespace Governance

/-- Requests lead to the governance from one admin alone. -/
def Attained (governance : Governance) : Prop :=
  ∃ admin requests, (create admin).run requests = governance

/-! ## What every request keeps -/

/-- A request, granted or not, keeps the history of the allow-list an audit log. -/
theorem audited_after {governance : Governance} (audited : governance.policies.Audited)
    (request : GovernanceRequest) : (governance.after request).policies.Audited := by
  refine @holds_after (fun governance => governance.policies.Audited) governance request audited ?_
  intro done granted
  cases granted with
  | setMediator _ => exact audited
  | setPolicies hupdate =>
    exact AllowList.kept_of_update (fun _ entry _ audited => audited.record entry) audited hupdate
  | setPolicyColumns hupdate =>
    obtain ⟨entries, -, hentries⟩ := (AllowList.updateColumns_eq_ok_iff _ _ _).mp hupdate
    exact AllowList.kept_of_update (fun _ entry _ audited => audited.record entry) audited hentries
  | setRoute _ => exact audited
  | handOver => exact audited
  | handOverTogether _ => exact audited

theorem Attained.inOrder {governance : Governance} (attained : governance.Attained) :
    governance.InOrder := by
  obtain ⟨admin, requests, rfl⟩ := attained
  exact (inOrder_create admin).run requests

theorem Attained.audited {governance : Governance} (attained : governance.Attained) :
    governance.policies.Audited := by
  obtain ⟨admin, requests, rfl⟩ := attained
  have kept : ∀ governance : Governance, governance.policies.Audited →
      (governance.run requests).policies.Audited := by
    induction requests with
    | nil => exact fun _ audited => audited
    | cons request rest ih => exact fun _ audited => ih _ (audited_after audited request)
  exact kept (create admin) AllowList.audited_empty

/-! ## Requests that lead to a governance -/

/-- Requests that change a part of a governance one after the other. -/
theorem run_map {α β : Type} {place : β → Governance} {change : β → α → β}
    {request : α → GovernanceRequest} {items : List α}
    (effect : ∀ item ∈ items, ∀ part, (place part).after (request item) = place (change part item))
    (part : β) : (place part).run (items.map request) = place (items.foldl change part) := by
  induction items generalizing part with
  | nil => rfl
  | cons item rest ih =>
    obtain ⟨hitem, hrest⟩ := List.forall_mem_cons.mp effect
    have hrun := ih hrest (change part item)
    rwa [← hitem part] at hrun

/-- Handing a role over from an account to itself gives the role to that account. -/
theorem applyAll_plan_self {table : Authority} (peopled : table.Peopled) (role : Role)
    (account : Address) :
    table.applyAll (Handover.plan account account [role]) = table.grant role account := by
  refine Authority.eq_of_holds (peopled.handover _ _ _) (peopled.grant _ _) fun other holder => ?_
  rw [Bool.eq_iff_iff, Authority.holds_handover, Authority.holds_grant, List.mem_singleton]
  by_cases h : other = role ∧ holder = account <;> simp [h]

section Admin

variable {roles : Authority} {admin : Address} (hadmin : roles.holds .admin admin = true)
  (mediators : Mediators) (policies : AllowList) (routes : OrderedMap Address ChainId)

include hadmin

/-- An admin may give roles to any accounts. -/
theorem run_handOver (peopled : roles.Peopled) (held : List (Role × Address)) :
    run ⟨roles, mediators, policies, routes⟩
        (held.map fun entry => .handOver admin entry.2 entry.2 [entry.1]) =
      ⟨roles.grantAll held, mediators, policies, routes⟩ := by
  induction held generalizing roles with
  | nil => rfl
  | cons entry rest ih =>
    have hafter : after ⟨roles, mediators, policies, routes⟩
        (.handOver admin entry.2 entry.2 [entry.1]) =
          ⟨roles.grant entry.1 entry.2, mediators, policies, routes⟩ := by
      rw [after_of_granted hadmin .handOver, handedOver, applyAll_plan_self peopled]
    have hstill : (roles.grant entry.1 entry.2).holds .admin admin = true := by
      rw [Authority.holds_grant, hadmin, Bool.or_true]
    rw [List.map_cons, run, List.foldl_cons, hafter]
    exact ih hstill (peopled.grant entry.1 entry.2)

/-- An admin may name mediators other than the zero address. -/
theorem run_setMediator {named : List (ChainId × Address)}
    (nonzero : ∀ entry ∈ named, entry.2.isZero = false) :
    run ⟨roles, mediators, policies, routes⟩
        (named.map fun entry => .setMediator admin entry.1 entry.2) =
      ⟨roles, named.foldl (fun map entry => map.insert entry.1 entry.2) mediators, policies,
        routes⟩ := by
  refine @run_map _ _ (fun mediators => ⟨roles, mediators, policies, routes⟩) _ _ _ ?_ mediators
  intro entry hmem mediators
  rw [after_of_granted hadmin (.setMediator (nonzero entry hmem))]

/-- An admin may make changes about proper calls one after the other. -/
theorem run_setPolicies {history : List PolicyChange}
    (proper : ∀ change ∈ history, change.key.Proper) :
    run ⟨roles, mediators, policies, routes⟩
        (history.map fun change => .setPolicies admin [change.entry]) =
      ⟨roles, mediators, history.foldl (fun list change => list.record change.entry) policies,
        routes⟩ := by
  refine @run_map _ _ (fun policies => ⟨roles, mediators, policies, routes⟩) _ _ _ ?_ policies
  intro change hmem policies
  have hupdate : policies.update [change.entry] = .ok (1, policies.record change.entry) :=
    (policies.update_eq_ok_iff _ _).mpr
      ⟨List.cons_ne_nil _ _, List.forall_mem_singleton.mpr (proper change hmem), rfl⟩
  rw [after_of_granted hadmin (.setPolicies hupdate)]

/-- An admin may name entrypoints other than the zero address. -/
theorem run_setRoute {declared : List (Address × ChainId)}
    (nonzero : ∀ entry ∈ declared, entry.1.isZero = false) :
    run ⟨roles, mediators, policies, routes⟩
        (declared.map fun entry => .setRoute admin entry.1 entry.2) =
      ⟨roles, mediators, policies,
        declared.foldl (fun map entry => map.insert entry.1 entry.2) routes⟩ := by
  refine @run_map _ _ (fun routes => ⟨roles, mediators, policies, routes⟩) _ _ _ ?_ routes
  intro entry hmem routes
  rw [after_of_granted hadmin (.setRoute (nonzero entry hmem))]

end Admin

/-- Granting all that is assigned to an account that is an admin anyway. -/
theorem grantAll_ofAdmin {table : Authority} (peopled : table.Peopled) {admin : Address}
    (hadmin : table.holds .admin admin = true) :
    (Authority.ofAdmin admin).grantAll table.assignments = table := by
  refine Authority.eq_of_holds ((Authority.peopled_ofAdmin admin).grantAll _) peopled ?_
  intro role account
  have hempty : Authority.holds OrderedMap.empty role account = false := rfl
  rw [Bool.eq_iff_iff, Authority.holds_grantAll, Authority.mem_assignments_iff, Authority.ofAdmin,
    Authority.holds_grant, hempty, Bool.or_false, decide_eq_true_eq]
  constructor
  · rintro (hholds | ⟨rfl, rfl⟩)
    · exact hholds
    · exact hadmin
  · exact .inl

/-- The requests by which an admin makes everything what it is in a governance: first the roles, and
then the other three parts. -/
def requestsFor (governance : Governance) (admin : Address) : List GovernanceRequest :=
  (governance.roles.assignments.map fun entry => .handOver admin entry.2 entry.2 [entry.1]) ++
    (governance.mediators.entries.map fun entry => .setMediator admin entry.1 entry.2) ++
    (governance.policies.history.map fun change => .setPolicies admin [change.entry]) ++
    governance.routes.entries.map fun entry => .setRoute admin entry.1 entry.2

/-- Each admin of a governance in order with an audit log can make it what it is. -/
theorem run_requestsFor {governance : Governance} (inOrder : governance.InOrder)
    (audited : governance.policies.Audited) {admin : Address}
    (hadmin : governance.roles.holds .admin admin = true) :
    (create admin).run (governance.requestsFor admin) = governance := by
  obtain ⟨roles, mediators, policies, routes⟩ := governance
  have hstart : (Authority.ofAdmin admin).holds .admin admin = true := by
    rw [Authority.ofAdmin, Authority.holds_grant]
    simp
  have hmediators : ∀ entry ∈ mediators.entries, entry.2.isZero = false := fun entry hmem =>
    inOrder.mediators entry.1 entry.2 ((mediators.find?_eq_some_iff _ _).mpr hmem)
  have hroutes : ∀ entry ∈ routes.entries, entry.1.isZero = false := fun entry hmem =>
    inOrder.entrypoints entry.1 entry.2 ((routes.find?_eq_some_iff _ _).mpr hmem)
  have hcreate : create admin =
      ⟨Authority.ofAdmin admin, OrderedMap.empty, AllowList.empty, OrderedMap.empty⟩ := rfl
  rw [requestsFor, run_append, run_append, run_append, hcreate,
    run_handOver hstart _ _ _ (Authority.peopled_ofAdmin admin),
    grantAll_ofAdmin inOrder.peopled hadmin, run_setMediator hadmin _ _ _ hmediators,
    run_setPolicies hadmin _ _ _ inOrder.policies.history, run_setRoute hadmin _ _ _ hroutes,
    audited.foldl_record]
  congr 1
  · exact mediators.ofList_entries
  · exact routes.ofList_entries

/-- Requests lead from one admin alone to the governances that are in order and have an audit log, and
to no others. -/
theorem attained_iff (governance : Governance) :
    governance.Attained ↔ governance.InOrder ∧ governance.policies.Audited := by
  constructor
  · intro attained
    exact ⟨attained.inOrder, attained.audited⟩
  · rintro ⟨inOrder, audited⟩
    obtain ⟨admin, hadmin⟩ := inOrder.administered
    exact ⟨admin, governance.requestsFor admin, run_requestsFor inOrder audited hadmin⟩

end Governance

end GovernanceRelay
