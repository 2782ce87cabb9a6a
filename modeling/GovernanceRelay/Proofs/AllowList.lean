import GovernanceRelay.AllowList
import GovernanceRelay.Proofs.FirstFault

/-!
# What an update does to the allow-list

An update is applied exactly if it has entries and each of them is about a proper call, none of
whose parts is zero (`AllowList.update_eq_ok_iff`). Each call is then as the last entry about it
says, and as before if there is none (`AllowList.lookup_foldl_record`). So an allow-list that says
nothing about calls that are not proper goes on to say nothing about them
(`AllowList.Proper.update`), in its settings and in its history.
-/

set_option autoImplicit false

namespace GovernanceRelay

/-- A call is proper if its target, its selector and its chain are not zero. -/
structure CallKey.Proper (key : CallKey) : Prop where
  /-- The target is not the zero address. -/
  target : key.target.isZero = false
  /-- The selector is not the zero selector. -/
  selector : key.selector.isZero = false
  /-- The chain is not chain zero. -/
  chain : key.chain ≠ 0

/-- What an update is refused for at an entry, given the index of the entry. -/
def PolicyEntry.fault? (index : Nat) (entry : PolicyEntry) : Option PolicyError :=
  if entry.key.target.isZero then some (.zeroTarget index)
  else if entry.key.selector.isZero then some (.zeroSelector index)
  else if entry.key.chain = 0 then some (.zeroChain index)
  else none

theorem PolicyEntry.fault?_eq_none_iff (index : Nat) (entry : PolicyEntry) :
    entry.fault? index = none ↔ entry.key.Proper := by
  rw [PolicyEntry.fault?]
  constructor
  · intro h
    split at h
    · cases h
    · split at h
      · cases h
      · split at h
        · cases h
        · rename_i htarget hselector hchain
          exact ⟨eq_false_of_ne_true htarget, eq_false_of_ne_true hselector, hchain⟩
  · intro proper
    simp [proper.target, proper.selector, proper.chain]

/-- What settings say of a call; of several settings of it the last counts. -/
def lastSaid? (entries : List PolicyEntry) (key : CallKey) : Option Bool :=
  (entries.reverse.find? fun entry => entry.key = key).map PolicyEntry.allowed

theorem lastSaid?_cons (entry : PolicyEntry) (rest : List PolicyEntry) (key : CallKey) :
    lastSaid? (entry :: rest) key =
      (lastSaid? rest key).or (if key = entry.key then some entry.allowed else none) := by
  rw [lastSaid?, List.reverse_cons, List.find?_append, Option.map_or, lastSaid?]
  by_cases hkey : key = entry.key
  · simp [hkey]
  · simp [hkey, Ne.symm hkey]

namespace AllowList

theorem faultFrom_eq_firstFault (index : Nat) (entries : List PolicyEntry) :
    faultFrom index entries = firstFault PolicyEntry.fault? index entries := by
  induction entries generalizing index with
  | nil => rfl
  | cons entry rest ih =>
    rw [faultFrom, firstFault_cons, PolicyEntry.fault?, ih]
    split
    · rfl
    · split
      · rfl
      · split <;> rfl

/-- An update is applied exactly if it has entries and all of them are about proper calls. -/
theorem update_eq_ok_iff (list : AllowList) (entries : List PolicyEntry)
    (done : Nat × AllowList) :
    list.update entries = .ok done ↔
      entries ≠ [] ∧ (∀ entry ∈ entries, entry.key.Proper) ∧
        done = (entries.length, entries.foldl record list) := by
  rw [← firstFault_eq_none_iff PolicyEntry.fault?_eq_none_iff 0, ← faultFrom_eq_firstFault, update]
  cases entries with
  | nil => simp
  | cons entry rest =>
    cases faultFrom 0 (entry :: rest) with
    | none => simp [eq_comm]
    | some error => simp

/-- An update by columns is applied exactly if the columns make entries that can be applied. -/
theorem updateColumns_eq_ok_iff (list : AllowList) (columns : PolicyColumns)
    (done : Nat × AllowList) :
    list.updateColumns columns = .ok done ↔
      ∃ entries, columns.entries = .ok entries ∧ list.update entries = .ok done := by
  rw [updateColumns]
  cases columns.entries <;> simp

theorem lookup_record (list : AllowList) (entry : PolicyEntry) (key : CallKey) :
    (list.record entry).lookup key =
      if key = entry.key then some entry.allowed else list.lookup key :=
  OrderedMap.find?_insert list.settings entry.key key entry.allowed

/-- A setting in front of others may as well be recorded before them. -/
theorem lastSaid?_cons_or_lookup (list : AllowList) (entry : PolicyEntry) (rest : List PolicyEntry)
    (key : CallKey) :
    (lastSaid? (entry :: rest) key).or (list.lookup key) =
      (lastSaid? rest key).or ((list.record entry).lookup key) := by
  rw [lastSaid?_cons, Option.or_assoc, lookup_record]
  split
  · rfl
  · rfl

/-- Settings that are recorded one after the other say what the last of them says, and nothing new
of other calls. -/
theorem lookup_foldl_record (list : AllowList) (entries : List PolicyEntry) (key : CallKey) :
    (entries.foldl record list).lookup key = (lastSaid? entries key).or (list.lookup key) := by
  induction entries generalizing list with
  | nil => rfl
  | cons entry rest ih => rw [List.foldl_cons, ih, lastSaid?_cons_or_lookup]

/-- An allow-list is proper if it is about proper calls only. -/
structure Proper (list : AllowList) : Prop where
  /-- The settings are about proper calls. -/
  settings : ∀ key allowed, list.lookup key = some allowed → key.Proper
  /-- The changes were about proper calls. -/
  history : ∀ change ∈ list.history, change.key.Proper

theorem proper_empty : empty.Proper where
  settings key allowed h := by cases h
  history change hmem := by cases hmem

theorem Proper.record {list : AllowList} (proper : list.Proper) {entry : PolicyEntry}
    (hentry : entry.key.Proper) : (list.record entry).Proper where
  settings key allowed h := by
    rw [lookup_record] at h
    split at h
    · rename_i hkey
      exact hkey ▸ hentry
    · exact proper.settings key allowed h
  history := List.forall_mem_append.mpr ⟨proper.history, List.forall_mem_singleton.mpr hentry⟩

/-- What every recording of a proper setting keeps is kept by updates. -/
theorem kept_of_update {P : AllowList → Prop}
    (keep : ∀ list entry, entry.key.Proper → P list → P (list.record entry))
    {list : AllowList} (start : P list) {entries : List PolicyEntry} {done : Nat × AllowList}
    (h : list.update entries = .ok done) : P done.2 := by
  obtain ⟨-, hentries, rfl⟩ := (update_eq_ok_iff list entries done).mp h
  clear h
  induction entries generalizing list with
  | nil => exact start
  | cons entry rest ih =>
    obtain ⟨hentry, hrest⟩ := List.forall_mem_cons.mp hentries
    exact ih (keep list entry hentry start) hrest

/-- An update keeps an allow-list proper. -/
theorem Proper.update {list : AllowList} (proper : list.Proper) {entries : List PolicyEntry}
    {done : Nat × AllowList} (h : list.update entries = .ok done) : done.2.Proper :=
  kept_of_update (fun _ _ hentry proper => proper.record hentry) proper h

end AllowList

end GovernanceRelay
