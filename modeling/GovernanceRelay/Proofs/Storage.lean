import GovernanceRelay.Proofs.Disk
import GovernanceRelay.Proofs.Settings.Seed
import GovernanceRelay.Storage

/-!
# The governance that a disk keeps

A disk keeps a governance that begins as the settings say in one of two ways: there is no file as
long as nothing was granted, and afterwards the file has the written form of the governance as it is
(`Settings.Keeps`). In both cases that governance is opened (`Settings.Keeps.openState`). What is
written to other files does not matter, and saving keeps the governance after one more request.
-/

set_option autoImplicit false

namespace GovernanceRelay

/-- Reading the file at a path that can be written to. -/
theorem Disk.load_of_target {α : Type} {disk : Disk} {path : String} {location : Location}
    {bytes : Bytes} {parse : Bytes → Except SnapshotError α} {value : α}
    (writable : disk.target path = .ok location)
    (stored : disk.find? location = some (.file bytes)) (parsed : parse bytes = .ok value) :
    disk.load path parse = .ok value := by
  have hread : disk.read path = .ok bytes := by
    rw [read_of_target writable, stored]
  simp only [load, hread, parsed]

namespace Settings

variable {settings : Settings} {place : Location} {seeded : Governance} {disk : Disk}
  {requests : List GovernanceRequest}

/-- A disk keeps a governance that begins as the settings say, after requests that were granted: it
has no file for it as long as there was none, and then the governance as it is. -/
structure Keeps (settings : Settings) (place : Location) (seeded : Governance) (disk : Disk)
    (requests : List GovernanceRequest) : Prop where
  /-- The governance can be saved at the place. -/
  writable : disk.target settings.statePath = .ok place
  /-- Nothing is saved before the first request. -/
  absent : requests = [] → disk.find? place = none
  /-- After the last request the governance was saved. -/
  saved : requests ≠ [] → ∃ bytes, (seeded.run requests).snapshot.encode = .ok bytes ∧
    disk.find? place = some (.file bytes)

theorem Keeps.openState (keeps : Keeps settings place seeded disk requests)
    (begins : settings.seed = .ok seeded) :
    settings.openState disk = .ok (seeded.run requests) := by
  have hcontains := Disk.contains_iff_of_target keeps.writable
  by_cases hrequests : requests = []
  · -- nothing is saved yet, so it begins anew
    have habsent := keeps.absent hrequests
    subst hrequests
    rw [Settings.openState, if_neg fun h => hcontains.mp h habsent, begins]
    rfl
  · -- what was saved is read as what it was
    obtain ⟨bytes, hwritten, hstored⟩ := keeps.saved hrequests
    have hread := (reached_run_of_seed begins requests).ofBytes_eq_ok hwritten
    have hload := Disk.load_of_target keeps.writable hstored hread
    rw [Settings.openState, if_pos (hcontains.mpr (by simp [hstored])), Governance.load, hload]
    rfl

theorem Keeps.contains_iff (keeps : Keeps settings place seeded disk requests) :
    disk.contains settings.statePath = true ↔ requests ≠ [] := by
  rw [Disk.contains_iff_of_target keeps.writable]
  by_cases hrequests : requests = []
  · simp [hrequests, keeps.absent hrequests]
  · obtain ⟨bytes, -, hstored⟩ := keeps.saved hrequests
    simp [hrequests, hstored]

/-- What is written to another file changes neither the governance nor where it is saved. -/
theorem Keeps.write_other (keeps : Keeps settings place seeded disk requests) {path : String}
    {content : Bytes} {after : Disk} (apart : disk.locate path ≠ .ok place)
    (written : disk.write path content = .ok after) :
    Keeps settings place seeded after requests ∧
      after.read settings.statePath = disk.read settings.statePath := by
  have spares := Disk.spares_write apart written
  refine ⟨⟨spares.target_eq keeps.writable, fun h => ?_, fun h => ?_⟩,
    spares.read_eq keeps.writable⟩
  · rw [spares.kept]
    exact keeps.absent h
  · rw [spares.kept]
    exact keeps.saved h

/-- A governance is saved exactly if its snapshot can be counted. -/
theorem exists_saveState_iff (writable : disk.target settings.statePath = .ok place)
    (governance : Governance) :
    (∃ after, settings.saveState governance disk = .ok after) ↔
      governance.snapshot.Countable := by
  constructor
  · rintro ⟨after, hsaved⟩
    refine Classical.byContradiction fun huncountable => ?_
    have hunwritten := Snapshot.oneForm.unwritten _ huncountable
    rw [saveState, Governance.save, hunwritten] at hsaved
    cases hsaved
  · intro countable
    have hwritten := Snapshot.oneForm.written _ countable
    refine ⟨disk.place place (.file governance.snapshot.form), ?_⟩
    rw [saveState, Governance.save, hwritten]
    simp only [Disk.save, Disk.write_of_target _ writable]

theorem write_of_saveState {governance : Governance} {after : Disk}
    (saved : settings.saveState governance disk = .ok after) :
    ∃ bytes, governance.snapshot.encode = .ok bytes ∧
      disk.write settings.statePath bytes = .ok after := by
  rw [saveState, Governance.save] at saved
  split at saved
  · cases saved
  · rename_i bytes hwritten
    rw [Disk.save] at saved
    split at saved
    · cases saved
    · rename_i written hwrite
      cases saved
      exact ⟨bytes, hwritten, hwrite⟩

/-- A governance that is saved is kept. -/
theorem Keeps.save (keeps : Keeps settings place seeded disk requests)
    {request : GovernanceRequest} {after : Disk}
    (saved : settings.saveState (seeded.run (requests ++ [request])) disk = .ok after) :
    Keeps settings place seeded after (requests ++ [request]) := by
  obtain ⟨bytes, hwritten, hwrite⟩ := write_of_saveState saved
  have hsame := Disk.sameDirectories_write hwrite
  rw [Disk.write_of_target bytes keeps.writable] at hwrite
  cases hwrite
  have hnot := (Disk.target_ok_iff.mp keeps.writable).2.2.2
  exact {
    writable := hsame.target_iff.mp keeps.writable
    absent := fun h => absurd h (by simp)
    saved := fun _ => ⟨bytes, hwritten, Disk.find?_place_self hnot⟩ }

end Settings

end GovernanceRelay
