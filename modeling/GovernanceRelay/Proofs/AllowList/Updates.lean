import GovernanceRelay.Proofs.AllowList.AuditLog

/-!
# Updates as a whole

An update is refused for its first improper entry, and then the allow-list stays as it is
(`AllowList.update_eq_error_iff`). Otherwise all of its entries are applied, in the settings and in
the history. An update by columns is the update by the entries whose columns they are, if there are
any (`PolicyColumns.exists_entries_of_rectangular`). `AllowList.update_whole_or_not` says all of
this.
-/

set_option autoImplicit false

namespace GovernanceRelay

/-- A call is not proper exactly if a part of it is zero. -/
theorem CallKey.not_proper_iff (key : CallKey) :
    ¬ key.Proper ↔ key.target.isZero = true ∨ key.selector.isZero = true ∨ key.chain = 0 := by
  constructor
  · intro improper
    by_cases htarget : key.target.isZero = true
    · exact .inl htarget
    · by_cases hselector : key.selector.isZero = true
      · exact .inr (.inl hselector)
      · refine .inr (.inr (Decidable.byContradiction fun hchain => improper ?_))
        exact ⟨eq_false_of_ne_true htarget, eq_false_of_ne_true hselector, hchain⟩
  · rintro (htarget | hselector | hchain) proper
    · exact absurd htarget (ne_true_of_eq_false proper.target)
    · exact absurd hselector (ne_true_of_eq_false proper.selector)
    · exact proper.chain hchain

namespace PolicyEntry

/-- The wording of a fault names the place of the entry and the first part of its call that is
zero. -/
theorem message_of_fault? {index : Nat} {entry : PolicyEntry} {error : PolicyError}
    (h : entry.fault? index = some error) :
    error.message = "Malformed policy update: " ++ ("entry " ++ toString index ++
      (if entry.key.target.isZero then " has the zero address as target"
      else if entry.key.selector.isZero then " has the zero selector"
      else " has chain id 0")) := by
  rw [fault?] at h
  split at h
  · rename_i htarget
    cases h
    rw [if_pos htarget]
    rfl
  · rename_i htarget
    rw [if_neg htarget]
    split at h
    · rename_i hselector
      cases h
      rw [if_pos hselector]
      rfl
    · rename_i hselector
      rw [if_neg hselector]
      split at h
      · cases h
        rfl
      · cases h

end PolicyEntry

namespace AllowList

/-- An update is refused if it has no entry, and otherwise for its first improper entry. -/
theorem update_eq_error_iff (list : AllowList) (entries : List PolicyEntry) (error : PolicyError) :
    list.update entries = .error error ↔
      (entries = [] ∧ error = .empty) ∨
      ∃ before entry after, entries = before ++ entry :: after ∧
        (∀ earlier ∈ before, earlier.key.Proper) ∧ entry.fault? before.length = some error := by
  have hfirst := firstFault_eq_some_iff PolicyEntry.fault?_eq_none_iff 0 entries error
  rw [← faultFrom_eq_firstFault] at hfirst
  simp only [Nat.zero_add] at hfirst
  rw [← hfirst, update]
  cases entries with
  | nil => simp [faultFrom, eq_comm]
  | cons entry rest =>
    cases faultFrom 0 (entry :: rest) with
    | none => simp
    | some fault => simp

theorem exists_update_eq_error_iff (list : AllowList) (entries : List PolicyEntry) :
    (∃ error, list.update entries = .error error) ↔
      entries = [] ∨ ∃ entry ∈ entries, ¬ entry.key.Proper := by
  constructor
  · rintro ⟨error, h⟩
    rcases (update_eq_error_iff list entries error).mp h with
      ⟨hnil, -⟩ | ⟨before, entry, after, rfl, -, hfault⟩
    · exact .inl hnil
    · refine .inr ⟨entry, List.mem_append_right _ List.mem_cons_self, fun proper => ?_⟩
      rw [(entry.fault?_eq_none_iff before.length).mpr proper] at hfault
      cases hfault
  · intro h
    cases hupdate : list.update entries with
    | error error => exact ⟨error, rfl⟩
    | ok done =>
      obtain ⟨hsome, hproper, -⟩ := (update_eq_ok_iff list entries done).mp hupdate
      rcases h with hnil | ⟨entry, hmem, himproper⟩
      · exact absurd hnil hsome
      · exact absurd (hproper entry hmem) himproper

end AllowList

/-! ## Columns -/

namespace PolicyColumns

/-- The columns of entries. -/
def ofEntries (entries : List PolicyEntry) : PolicyColumns where
  targets := entries.map fun entry => entry.key.target
  selectors := entries.map fun entry => entry.key.selector
  chains := entries.map fun entry => entry.key.chain
  statuses := entries.map PolicyEntry.allowed

/-- Columns are rectangular if they are of one length, which is not zero. -/
structure Rectangular (columns : PolicyColumns) : Prop where
  /-- There is a row. -/
  targets : columns.targets ≠ []
  /-- There is a selector in every row. -/
  selectors : columns.selectors.length = columns.targets.length
  /-- There is a chain in every row. -/
  chains : columns.chains.length = columns.targets.length
  /-- There is a status in every row. -/
  statuses : columns.statuses.length = columns.targets.length

/-- Columns of one length are those of their rows. -/
theorem ofEntries_rows (targets : List Address) (selectors : List Selector) (chains : List ChainId)
    (statuses : List Bool) (hselectors : selectors.length = targets.length)
    (hchains : chains.length = targets.length) (hstatuses : statuses.length = targets.length) :
    ofEntries (rows targets selectors chains statuses) =
      ⟨targets, selectors, chains, statuses⟩ := by
  induction targets generalizing selectors chains statuses with
  | nil =>
    cases List.length_eq_zero_iff.mp hselectors
    cases List.length_eq_zero_iff.mp hchains
    cases List.length_eq_zero_iff.mp hstatuses
    rfl
  | cons target targets ih =>
    obtain ⟨selector, selectors, rfl⟩ := List.exists_cons_of_length_eq_add_one hselectors
    obtain ⟨chain, chains, rfl⟩ := List.exists_cons_of_length_eq_add_one hchains
    obtain ⟨status, statuses, rfl⟩ := List.exists_cons_of_length_eq_add_one hstatuses
    have hrest := ih selectors chains statuses (Nat.succ.inj hselectors) (Nat.succ.inj hchains)
      (Nat.succ.inj hstatuses)
    rw [PolicyColumns.mk.injEq] at hrest
    obtain ⟨htargets, hselectors, hchains, hstatuses⟩ := hrest
    rw [rows, PolicyColumns.mk.injEq]
    exact ⟨congrArg (target :: ·) htargets, congrArg (selector :: ·) hselectors,
      congrArg (chain :: ·) hchains, congrArg (status :: ·) hstatuses⟩

/-- Rectangular columns are those of some entries, and these are what they describe. -/
theorem exists_entries_of_rectangular {columns : PolicyColumns}
    (rectangular : columns.Rectangular) :
    ∃ entries, columns = ofEntries entries ∧ columns.entries = .ok entries := by
  refine ⟨rows columns.targets columns.selectors columns.chains columns.statuses, ?_, ?_⟩
  · symm
    exact ofEntries_rows _ _ _ _ rectangular.selectors rectangular.chains rectangular.statuses
  · have hsize : columns.targets.length ≠ 0 := fun hnone =>
      rectangular.targets (List.length_eq_zero_iff.mp hnone)
    simp [entries, hsize, rectangular.selectors, rectangular.chains, rectangular.statuses]

/-- Other columns describe no entries, because there is no row or because lengths differ. -/
theorem entries_of_not_rectangular {columns : PolicyColumns} (ragged : ¬ columns.Rectangular) :
    columns.entries = .error
      (if columns.targets = [] then .empty
      else .lengths columns.targets.length columns.selectors.length columns.chains.length
        columns.statuses.length) := by
  rw [entries]
  by_cases htargets : columns.targets = []
  · simp [htargets]
  · have hdiffer : columns.selectors.length ≠ columns.targets.length ∨
        columns.chains.length ≠ columns.targets.length ∨
        columns.statuses.length ≠ columns.targets.length := by
      refine Decidable.byContradiction fun hsame => ragged ⟨htargets, ?_, ?_, ?_⟩
      · omega
      · omega
      · omega
    simp only [List.length_eq_zero_iff, if_neg htargets, if_pos hdiffer]

end PolicyColumns

namespace AllowList

/-- Updates are applied as a whole or not at all. An update by entries is refused exactly if there
is none or a part of one of them is zero. It is refused for the first such entry and the first such
part of it, and nothing changes. Otherwise all entries are counted, each call is as the last entry
about it says, calls without entry are as before, and the history goes on with one change for each
entry, which tells what was said of its call before it. An update by columns is the update by the
entries whose columns they are if the columns are of one length, which is not zero; otherwise it is
refused, and nothing changes. -/
theorem update_whole_or_not (list : AllowList) (entries : List PolicyEntry)
    (columns : PolicyColumns) :
    ((∃ error, list.update entries = .error error) ↔
      entries = [] ∨ ∃ entry ∈ entries, entry.key.target.isZero = true ∨
        entry.key.selector.isZero = true ∨ entry.key.chain = 0) ∧
    (∀ error, list.update entries = .error error →
      list.after (.byEntries entries) = list ∧
      ((entries = [] ∧ error.message = "Malformed policy update: empty update") ∨
      ∃ before entry after, entries = before ++ entry :: after ∧
        (∀ earlier ∈ before, earlier.key.target.isZero = false ∧
          earlier.key.selector.isZero = false ∧ earlier.key.chain ≠ 0) ∧
        entry.fault? before.length = some error ∧
        error.message = "Malformed policy update: " ++ ("entry " ++ toString before.length ++
          (if entry.key.target.isZero then " has the zero address as target"
          else if entry.key.selector.isZero then " has the zero selector"
          else " has chain id 0")))) ∧
    (∀ done, list.update entries = .ok done →
      done.1 = entries.length ∧ list.after (.byEntries entries) = done.2 ∧
      (∀ key, done.2.lookup key = (lastSaid? entries key).or (list.lookup key)) ∧
      ∃ added, done.2.history = list.history ++ added ∧ added.map PolicyChange.entry = entries ∧
        ∀ index change, added[index]? = some change →
          change.sequence = UInt64.ofNat (list.history.length + index) ∧
          change.previous =
            (lastSaid? (entries.take index) change.key).or (list.lookup change.key)) ∧
    (columns.Rectangular →
      ∃ rows, columns = .ofEntries rows ∧ list.updateColumns columns = list.update rows) ∧
    (¬ columns.Rectangular →
      list.updateColumns columns = .error
        (if columns.targets = [] then .empty
        else .lengths columns.targets.length columns.selectors.length columns.chains.length
          columns.statuses.length) ∧
      list.after (.byColumns columns) = list) := by
  refine ⟨?_, fun error herror => ⟨after_of_refused herror, ?_⟩, fun done hdone => ?_,
    fun rectangular => ?_, fun ragged => ?_⟩
  · rw [exists_update_eq_error_iff]
    simp only [CallKey.not_proper_iff]
  · rcases (list.update_eq_error_iff entries error).mp herror with
      ⟨hnil, rfl⟩ | ⟨before, entry, after, hsplit, hbefore, hfault⟩
    · exact .inl ⟨hnil, rfl⟩
    · refine .inr ⟨before, entry, after, hsplit, fun earlier hmem => ?_, hfault,
        PolicyEntry.message_of_fault? hfault⟩
      have proper := hbefore earlier hmem
      exact ⟨proper.target, proper.selector, proper.chain⟩
  · have hafter : list.after (.byEntries entries) = done.2 := after_of_answer hdone
    obtain ⟨-, -, rfl⟩ := (list.update_eq_ok_iff entries done).mp hdone
    exact ⟨rfl, hafter, list.lookup_foldl_record entries, list.exists_changes_foldl_record entries⟩
  · obtain ⟨rows, hcolumns, hentries⟩ := PolicyColumns.exists_entries_of_rectangular rectangular
    refine ⟨rows, hcolumns, ?_⟩
    rw [updateColumns, hentries]
  · have hentries := PolicyColumns.entries_of_not_rectangular ragged
    refine ⟨by rw [updateColumns, hentries], ?_⟩
    simp only [after, answer, updateColumns, hentries]

end AllowList

end GovernanceRelay
