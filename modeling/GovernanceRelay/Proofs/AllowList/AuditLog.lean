import GovernanceRelay.Proofs.AllowList
import GovernanceRelay.Proofs.Course

/-!
# The history of an allow-list as an audit log

Updates come one after another, and some of them are refused. The history of an allow-list that said
nothing at first tells all of it: its changes are numbered in order, each of them tells what the
changes before it said of its call, and the first changes rebuild the allow-list as it was when
there were no others (`AllowList.faithful_audit_log`). An update may set one call several times, so
the invariant (`AllowList.Audited`) is kept by every single setting, not by updates as a whole.
-/

set_option autoImplicit false

namespace GovernanceRelay

/-- What is asked of an allow-list. -/
inductive PolicyRequest where
  /-- An update by entries. -/
  | byEntries (entries : List PolicyEntry)
  /-- An update by columns. -/
  | byColumns (columns : PolicyColumns)

/-- The entries that a request is about, if it describes any. -/
def PolicyRequest.entries : PolicyRequest → Except PolicyError (List PolicyEntry)
  | .byEntries entries => .ok entries
  | .byColumns columns => columns.entries

/-- The setting that a change recorded. -/
def PolicyChange.entry (change : PolicyChange) : PolicyEntry := ⟨change.key, change.allowed⟩

namespace AllowList

/-- The answer of an allow-list to a request. -/
def answer (list : AllowList) : PolicyRequest → Except PolicyError (Nat × AllowList)
  | .byEntries entries => list.update entries
  | .byColumns columns => list.updateColumns columns

/-- The allow-list after a request; a request that is refused changes nothing. -/
def after (list : AllowList) (request : PolicyRequest) : AllowList :=
  match list.answer request with
  | .ok (_, changed) => changed
  | .error _ => list

/-- The allow-list after a number of requests. -/
def run (list : AllowList) (requests : List PolicyRequest) : AllowList := requests.foldl after list

section After

variable {list : AllowList} {request : PolicyRequest}

theorem after_of_answer {done : Nat × AllowList} (h : list.answer request = .ok done) :
    list.after request = done.2 := by
  rw [after, h]

theorem after_of_refused {error : PolicyError} (h : list.answer request = .error error) :
    list.after request = list := by
  rw [after, h]

/-- A request is granted exactly if it describes entries that can be applied. -/
theorem answer_eq_ok_iff (list : AllowList) (request : PolicyRequest) (done : Nat × AllowList) :
    list.answer request = .ok done ↔
      ∃ entries, request.entries = .ok entries ∧ list.update entries = .ok done := by
  cases request with
  | byEntries entries => simp [answer, PolicyRequest.entries]
  | byColumns columns => exact updateColumns_eq_ok_iff list columns done

end After

/-! ## The settings from the changes -/

/-- The settings are those that the changes lead to. -/
def Settled (list : AllowList) : Prop := (ofHistory list.history).settings = list.settings

theorem Settled.ofHistory_history {list : AllowList} (settled : list.Settled) :
    ofHistory list.history = list := by
  change AllowList.mk (ofHistory list.history).settings list.history = list
  rw [settled]

/-- The last change is the last to be applied. -/
theorem settings_ofHistory_concat (history : List PolicyChange) (change : PolicyChange) :
    (ofHistory (history ++ [change])).settings =
      (ofHistory history).settings.insert change.key change.allowed := by
  simp only [ofHistory, List.foldl_append, List.foldl_cons, List.foldl_nil]

theorem Settled.record {list : AllowList} (settled : list.Settled) (entry : PolicyEntry) :
    (list.record entry).Settled := by
  rw [Settled, AllowList.record, settings_ofHistory_concat, settled]

/-- An update keeps the settings in step with the changes. -/
theorem Settled.update {list : AllowList} (settled : list.Settled) {entries : List PolicyEntry}
    {done : Nat × AllowList} (h : list.update entries = .ok done) : done.2.Settled :=
  kept_of_update (fun _ entry _ settled => settled.record entry) settled h

/-- Changes that are applied to settings leave a call unsaid exactly if it was unsaid before and none
of them is about it. -/
theorem find?_foldl_insert_eq_none_iff (settings : OrderedMap CallKey Bool)
    (changes : List PolicyChange) (key : CallKey) :
    (changes.foldl (fun map change => map.insert change.key change.allowed) settings).find? key =
        none ↔
      (∀ change ∈ changes, change.key ≠ key) ∧ settings.find? key = none := by
  induction changes generalizing settings with
  | nil => simp
  | cons change rest ih =>
    rw [List.foldl_cons, ih, OrderedMap.find?_insert, List.forall_mem_cons]
    by_cases hkey : key = change.key
    · simp [hkey]
    · simp [hkey, Ne.symm hkey]

/-- A history says nothing of the calls that no change is about. -/
theorem lookup_ofHistory_eq_none_iff (history : List PolicyChange) (key : CallKey) :
    (ofHistory history).lookup key = none ↔ ∀ change ∈ history, change.key ≠ key := by
  rw [lookup, ofHistory, find?_foldl_insert_eq_none_iff]
  exact and_iff_left rfl

/-! ## What is recorded -/

/-- Settings that are recorded one after the other are changes with the next numbers, and each of
them tells what was said of its call before, by an earlier one or by the allow-list. -/
theorem exists_changes_foldl_record (list : AllowList) (entries : List PolicyEntry) :
    ∃ added, (entries.foldl record list).history = list.history ++ added ∧
      added.map PolicyChange.entry = entries ∧
      ∀ index change, added[index]? = some change →
        change.sequence = UInt64.ofNat (list.history.length + index) ∧
        change.previous =
          (lastSaid? (entries.take index) change.key).or (list.lookup change.key) := by
  induction entries generalizing list with
  | nil => exact ⟨[], (List.append_nil _).symm, rfl, fun index change h => by cases h⟩
  | cons entry rest ih =>
    obtain ⟨added, hhistory, hadded, hchanges⟩ := ih (list.record entry)
    refine ⟨⟨UInt64.ofNat list.history.length, entry.key, list.lookup entry.key, entry.allowed⟩ ::
      added, ?_, ?_, ?_⟩
    · rw [List.foldl_cons, hhistory, record, List.append_assoc, List.singleton_append]
    · rw [List.map_cons, hadded]
      rfl
    · intro index change hchange
      cases index with
      | zero =>
        cases hchange
        exact ⟨rfl, rfl⟩
      | succ index =>
        obtain ⟨hsequence, hprevious⟩ := hchanges index change hchange
        refine ⟨?_, ?_⟩
        · rw [hsequence, record, List.length_append, List.length_singleton, Nat.add_assoc,
            Nat.add_comm 1]
        · rw [hprevious, List.take_succ_cons, lastSaid?_cons_or_lookup]

/-- A request that is granted adds one change for each of its entries, in order. -/
theorem history_of_answer {list : AllowList} {request : PolicyRequest} {done : Nat × AllowList}
    (h : list.answer request = .ok done) :
    ∃ entries added, request.entries = .ok entries ∧ done.1 = entries.length ∧
      done.2.history = list.history ++ added ∧ added.map PolicyChange.entry = entries := by
  obtain ⟨entries, hentries, hupdate⟩ := (list.answer_eq_ok_iff request done).mp h
  obtain ⟨-, -, rfl⟩ := (update_eq_ok_iff list entries done).mp hupdate
  obtain ⟨added, hhistory, hadded, -⟩ := list.exists_changes_foldl_record entries
  exact ⟨entries, added, hentries, rfl, hhistory, hadded⟩

/-- What is in the history stays there. -/
theorem history_after (list : AllowList) (request : PolicyRequest) :
    list.history <+: (list.after request).history := by
  cases hanswer : list.answer request with
  | error error => simp only [after_of_refused hanswer, List.prefix_rfl]
  | ok done =>
    obtain ⟨-, added, -, -, hhistory, -⟩ := history_of_answer hanswer
    rw [after_of_answer hanswer, hhistory]
    exact List.prefix_append _ _

theorem history_run (list : AllowList) (requests : List PolicyRequest) :
    list.history <+: (list.run requests).history := by
  induction requests generalizing list with
  | nil => exact List.prefix_rfl
  | cons request rest ih => exact (list.history_after request).trans (ih (list.after request))

/-! ## What every setting keeps -/

/-- The history of an allow-list tells how its settings came about. -/
structure Audited (list : AllowList) : Prop where
  /-- The settings are those that the changes lead to. -/
  settled : list.Settled
  /-- The changes are numbered in order. -/
  numbered : ∀ index change, list.history[index]? = some change →
    change.sequence = UInt64.ofNat index
  /-- A change tells what was said of its call before. -/
  previous : ∀ index change, list.history[index]? = some change →
    change.previous = (ofHistory (list.history.take index)).lookup change.key

theorem audited_empty : empty.Audited where
  settled := rfl
  numbered index change h := by cases h
  previous index change h := by cases h

/-- Recording one more setting keeps the history an audit log. -/
theorem Audited.record {list : AllowList} (audited : list.Audited) (entry : PolicyEntry) :
    (list.record entry).Audited where
  settled := audited.settled.record entry
  numbered index change h := by
    rcases getElem?_concat_eq_some h with ⟨hold, -⟩ | ⟨rfl, rfl⟩
    · exact audited.numbered index change hold
    · rfl
  previous index change h := by
    rcases getElem?_concat_eq_some h with ⟨hold, htake⟩ | ⟨rfl, rfl⟩
    · rw [AllowList.record, htake]
      exact audited.previous index change hold
    · -- before the last change stand all the others, and these lead to the list
      rw [AllowList.record, List.take_left, audited.settled.ofHistory_history]

/-- Every request, granted or not, keeps the history an audit log. -/
theorem Audited.after {list : AllowList} (audited : list.Audited) (request : PolicyRequest) :
    (list.after request).Audited := by
  cases hanswer : list.answer request with
  | error error =>
    rw [after_of_refused hanswer]
    exact audited
  | ok done =>
    obtain ⟨entries, -, hupdate⟩ := (list.answer_eq_ok_iff request done).mp hanswer
    rw [after_of_answer hanswer]
    exact kept_of_update (fun _ entry _ audited => audited.record entry) audited hupdate

theorem Audited.run {list : AllowList} (audited : list.Audited) (requests : List PolicyRequest) :
    (list.run requests).Audited := by
  induction requests generalizing list with
  | nil => exact audited
  | cons request rest ih => exact ih (audited.after request)

/-- Whatever was asked of an allow-list that said nothing at first, its history rebuilds it. The
changes are numbered in order, and each tells what the changes before it say of its call, which is
nothing exactly if none of them is about that call. A request that is refused changes nothing, and
one that is granted appends one change for each of its entries, in order. At every earlier moment the
history was a front of what it is now, and this front rebuilds the allow-list of that moment. -/
theorem faithful_audit_log (requests : List PolicyRequest) :
    let list := empty.run requests
    ofHistory list.history = list ∧
    (∀ index change, list.history[index]? = some change →
      change.sequence = UInt64.ofNat index ∧
      change.previous = (ofHistory (list.history.take index)).lookup change.key ∧
      (change.previous = none ↔
        ∀ earlier ∈ list.history.take index, earlier.key ≠ change.key)) ∧
    (∀ moment ∈ course after empty requests,
      (∀ error, moment.before.answer moment.event = .error error →
        moment.after = moment.before) ∧
      (∀ done, moment.before.answer moment.event = .ok done →
        ∃ entries added, moment.event.entries = .ok entries ∧ done.1 = entries.length ∧
          moment.after.history = moment.before.history ++ added ∧
          added.map PolicyChange.entry = entries) ∧
      moment.before.history <+: list.history ∧
      ofHistory (list.history.take moment.before.history.length) = moment.before) := by
  intro list
  have audited : list.Audited := audited_empty.run requests
  refine ⟨audited.settled.ofHistory_history, fun index change hchange => ?_, fun moment hmem => ?_⟩
  · have hprevious := audited.previous index change hchange
    refine ⟨audited.numbered index change hchange, hprevious, ?_⟩
    rw [hprevious, lookup_ofHistory_eq_none_iff]
  · obtain ⟨earlier, rest, hrequests, hbefore, hafter⟩ := of_mem_course hmem
    refine ⟨fun error herror => ?_, fun done hdone => ?_, ?_⟩
    · rw [hafter, after_of_refused herror]
    · rw [hafter, after_of_answer hdone]
      exact history_of_answer hdone
    · -- the list is what the requests from that moment on make of the allow-list there
      have hlist : list = moment.before.run (moment.event :: rest) := by
        rw [hbefore, run, ← List.foldl_append, ← hrequests]
        rfl
      have hfront : moment.before.history <+: list.history := hlist ▸ moment.before.history_run _
      have settled : moment.before.Settled := by
        rw [hbefore]
        exact (audited_empty.run earlier).settled
      refine ⟨hfront, ?_⟩
      rw [← List.prefix_iff_eq_take.mp hfront]
      exact settled.ofHistory_history

end AllowList

end GovernanceRelay
