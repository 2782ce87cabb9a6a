import GovernanceRelay.Proofs.Course
import GovernanceRelay.Proofs.Layout.Canonical
import GovernanceRelay.Snapshot

/-!
# The form of saved snapshots and ledgers

A snapshot or a ledger whose lists can be counted in four bytes has a form, written out here field
by field, and no other value has one. The bytes that are read as a value are its form and nothing
else, so bytes that break off before the end of a form, or go on behind it, are refused
(`saved_in_one_form`). The length of every list stands in front of it, which is why no form
continues another one.
-/

set_option autoImplicit false

namespace GovernanceRelay

/-! ## Forms written out -/

/-- The form of a list: its length in four bytes and then the forms of its elements. -/
def countedForm {α : Type} (form : α → Bytes) (values : List α) : Bytes :=
  Bytes.littleEndian 4 values.length ++ values.flatMap form

/-- The form of a number of 64 bits. -/
def wordForm (value : UInt64) : Bytes := Bytes.littleEndian 8 value.toNat

/-- The form of a truth value. -/
def flagForm (value : Bool) : Bytes := [if value then 1 else 0]

/-- The form of a change of the allow-list. -/
def PolicyChange.form (change : PolicyChange) : Bytes :=
  wordForm change.sequence ++ change.key.target.bytes ++ change.key.selector.bytes
    ++ wordForm change.key.chain
    ++ (match change.previous with
      | none => [0]
      | some said => 1 :: flagForm said)
    ++ flagForm change.allowed

/-- The form of a snapshot: the version and four lists. -/
def Snapshot.form (saved : Snapshot) : Bytes :=
  saved.version ::
    (countedForm (fun held => UInt8.ofNat held.1.position :: held.2.bytes) saved.roles
      ++ countedForm (fun named => wordForm named.1 ++ named.2.bytes) saved.mediators
      ++ countedForm PolicyChange.form saved.history
      ++ countedForm (fun route => route.1.bytes ++ wordForm route.2) saved.routes)

/-- The form of a ledger: the version and two lists. -/
def Ledger.form (saved : Ledger) : Bytes :=
  saved.version ::
    (countedForm FixedBytes.bytes saved.processed
      ++ countedForm (fun begun => begun.1.bytes ++ wordForm begun.2) saved.started)

/-- The lists of a snapshot can be counted in four bytes. -/
structure Snapshot.Countable (saved : Snapshot) : Prop where
  /-- The roles with their holders. -/
  roles : saved.roles.length < Nat.pow 2 32
  /-- The mediators. -/
  mediators : saved.mediators.length < Nat.pow 2 32
  /-- The changes of the allow-list. -/
  history : saved.history.length < Nat.pow 2 32
  /-- The routes. -/
  routes : saved.routes.length < Nat.pow 2 32

/-- The lists of a ledger can be counted in four bytes. -/
structure Ledger.Countable (saved : Ledger) : Prop where
  /-- The messages carried out. -/
  processed : saved.processed.length < Nat.pow 2 32
  /-- The messages begun. -/
  started : saved.started.length < Nat.pow 2 32

/-! ## The layouts write these forms -/

namespace Layout

theorem canonical_policyChange : policyChange.Canonical := by
  refine (canonical_word.pair ((canonical_identifier 20).pair ((canonical_identifier 4).pair
    (canonical_word.pair (canonical_bool.option.pair canonical_bool))))).map fun raw value _ => ?_
  obtain ⟨sequence, target, selector, chain, previous, allowed⟩ := raw
  obtain ⟨_, ⟨_, _, _⟩, _, _⟩ := value
  simp [and_assoc]

theorem canonical_snapshot : snapshot.Canonical := by
  refine (canonical_byte.pair ((canonical_role.pair (canonical_identifier 20)).list.pair
    ((canonical_word.pair (canonical_identifier 20)).list.pair (canonical_policyChange.list.pair
      ((canonical_identifier 20).pair canonical_word).list)))).map fun raw value _ => ?_
  obtain ⟨version, roles, mediators, history, routes⟩ := raw
  cases value
  simp

theorem canonical_ledger : ledger.Canonical := by
  refine (canonical_byte.pair ((canonical_identifier 32).list.pair
    ((canonical_identifier 32).pair canonical_word).list)).map fun raw value _ => ?_
  obtain ⟨version, processed, started⟩ := raw
  cases value
  simp

/-! ### What has a form -/

theorem fits_word (value : UInt64) : word.fits value = true :=
  decide_eq_true value.toNat_lt

theorem fits_policyChange (change : PolicyChange) : policyChange.fits change = true := by
  obtain ⟨sequence, ⟨target, selector, chain⟩, previous, allowed⟩ := change
  have hprevious : bool.option.fits previous = true := by cases previous <;> rfl
  simp only [policyChange, map, pair, identifier, fits_word, hprevious, Bool.and_eq_true,
    true_and]
  rfl

/-- A list of values that all have a form has one exactly if it can be counted. -/
theorem fits_list_iff {α : Type} {layout : Layout α} (fits : ∀ value, layout.fits value = true)
    (values : List α) : layout.list.fits values = true ↔ values.length < Nat.pow 2 32 := by
  have hall : values.all layout.fits = true := List.all_eq_true.mpr fun value _ => fits value
  rw [show layout.list.fits values = ((number 4).fits values.length && values.all layout.fits)
    from rfl, hall, Bool.and_true]
  exact decide_eq_true_iff

theorem fits_snapshot_iff (saved : Snapshot) : snapshot.fits saved = true ↔ saved.Countable := by
  have hroles : (role.pair (identifier 20)).list.fits saved.roles = true ↔ _ :=
    fits_list_iff (fun _ => rfl) saved.roles
  have hmediators : (word.pair (identifier 20)).list.fits saved.mediators = true ↔ _ :=
    fits_list_iff (fun named => Bool.and_eq_true_iff.mpr ⟨fits_word named.1, rfl⟩) saved.mediators
  have hhistory : policyChange.list.fits saved.history = true ↔ _ :=
    fits_list_iff fits_policyChange saved.history
  have hroutes : ((identifier 20).pair word).list.fits saved.routes = true ↔ _ :=
    fits_list_iff (fun route => Bool.and_eq_true_iff.mpr ⟨rfl, fits_word route.2⟩) saved.routes
  simp only [snapshot, map, pair, byte, Bool.true_and, Bool.and_eq_true]
  constructor
  · rintro ⟨h₁, h₂, h₃, h₄⟩
    exact ⟨hroles.mp h₁, hmediators.mp h₂, hhistory.mp h₃, hroutes.mp h₄⟩
  · intro countable
    exact ⟨hroles.mpr countable.roles, hmediators.mpr countable.mediators,
      hhistory.mpr countable.history, hroutes.mpr countable.routes⟩

theorem fits_ledger_iff (saved : Ledger) : ledger.fits saved = true ↔ saved.Countable := by
  have hprocessed : (identifier 32).list.fits saved.processed = true ↔ _ :=
    fits_list_iff (fun _ => rfl) saved.processed
  have hstarted : ((identifier 32).pair word).list.fits saved.started = true ↔ _ :=
    fits_list_iff (fun begun => Bool.and_eq_true_iff.mpr ⟨rfl, fits_word begun.2⟩) saved.started
  simp only [ledger, map, pair, byte, Bool.true_and, Bool.and_eq_true]
  constructor
  · rintro ⟨h₁, h₂⟩
    exact ⟨hprocessed.mp h₁, hstarted.mp h₂⟩
  · intro countable
    exact ⟨hprocessed.mpr countable.processed, hstarted.mpr countable.started⟩

/-! ### What is written -/

theorem write_policyChange (change : PolicyChange) : policyChange.write change = change.form := by
  obtain ⟨sequence, ⟨target, selector, chain⟩, previous, allowed⟩ := change
  cases previous <;>
    simp [PolicyChange.form, policyChange, map, pair, identifier, option, bool, byte, word, number,
      wordForm, flagForm]

theorem write_snapshot (saved : Snapshot) : snapshot.write saved = saved.form := by
  have hhistory : policyChange.write = PolicyChange.form := funext write_policyChange
  simp only [Snapshot.form, snapshot, map, pair, list, byte, role, identifier, word, number,
    countedForm, wordForm, hhistory, List.append_assoc, List.singleton_append]

theorem write_ledger (saved : Ledger) : ledger.write saved = saved.form := by
  simp only [Ledger.form, ledger, map, pair, list, byte, identifier, word, number, countedForm,
    wordForm, List.append_assoc, List.singleton_append]

end Layout

/-! ## One form for each value -/

/-- Values of a type are saved in one form each: exactly those that are countable are written, what
is written is the form, and nothing else is read. -/
structure OneForm {α : Type} (Countable : α → Prop) (form : α → Bytes)
    (encode : α → Except SnapshotError Bytes) (ofBytes : Bytes → Except SnapshotError α) :
    Prop where
  /-- A countable value is written as its form. -/
  written : ∀ value, Countable value → encode value = .ok (form value)
  /-- No other value is written. -/
  unwritten : ∀ value, ¬ Countable value → encode value = .error (.malformed .tooLong)
  /-- Bytes are read as a value exactly if they are what is written for it. -/
  restored : ∀ value bytes, ofBytes bytes = .ok value ↔ encode value = .ok bytes
  /-- Bytes that lack the end of what is written, or go on behind it, are refused. -/
  refused : ∀ value bytes other, encode value = .ok bytes → other ≠ bytes →
    (other <+: bytes ∨ bytes <+: other) → ∃ error, ofBytes other = .error (.malformed error)

theorem Layout.Canonical.oneForm {α : Type} {layout : Layout α} (canonical : layout.Canonical)
    {Countable : α → Prop} {form : α → Bytes}
    (fits_iff : ∀ value, layout.fits value = true ↔ Countable value)
    (write_eq : ∀ value, layout.write value = form value) :
    OneForm Countable form (fun value => (layout.writeAll value).mapError .malformed)
      fun bytes => (layout.readAll bytes).mapError .malformed where
  written value countable := by
    rw [Layout.writeAll, if_pos ((fits_iff value).mpr countable), write_eq]
    rfl
  unwritten value uncountable := by
    rw [Layout.writeAll, if_neg (uncountable ∘ (fits_iff value).mp)]
    rfl
  restored value bytes := by
    rw [except_mapError_eq_ok_iff, except_mapError_eq_ok_iff, canonical.readAll_eq_ok_iff]
  refused value bytes other hwritten hne hpart := by
    rw [except_mapError_eq_ok_iff] at hwritten
    obtain ⟨error, herror⟩ := canonical.readAll_eq_error hwritten hne hpart
    exact ⟨error, by rw [herror]; rfl⟩

theorem Snapshot.oneForm : OneForm Countable form encode ofBytes :=
  Layout.canonical_snapshot.oneForm Layout.fits_snapshot_iff Layout.write_snapshot

theorem Ledger.oneForm : OneForm Countable form encode ofBytes :=
  Layout.canonical_ledger.oneForm Layout.fits_ledger_iff Layout.write_ledger

/-- Snapshots and ledgers whose lists can be counted in four bytes are saved in one form each and
read back from it; whatever is read is such a form; and bytes that break off before its end or go on
behind it are refused. -/
theorem saved_in_one_form :
    OneForm Snapshot.Countable Snapshot.form Snapshot.encode Snapshot.ofBytes ∧
      OneForm Ledger.Countable Ledger.form Ledger.encode Ledger.ofBytes :=
  ⟨Snapshot.oneForm, Ledger.oneForm⟩

end GovernanceRelay
