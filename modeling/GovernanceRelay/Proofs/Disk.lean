import GovernanceRelay.Disk

/-!
# What writing leaves as it is

Writing to a path, or creating a file there, changes neither where paths lead nor what is at another
place (`Disk.Spares`). What is spared by one change after another is spared by all of them, and is
read as it was.
-/

set_option autoImplicit false

namespace GovernanceRelay

namespace Disk

variable {place : Location} {before middle after : Disk} {path : String}

/-- Another disk has the same directories, and the same at a place. -/
structure Spares (place : Location) (before after : Disk) : Prop where
  /-- The directories are the same. -/
  same : SameDirectories before after
  /-- At the place there is what there was. -/
  kept : after.find? place = before.find? place

theorem spares_refl (place : Location) (disk : Disk) : Spares place disk disk :=
  ⟨fun _ => Iff.rfl, rfl⟩

theorem Spares.trans (first : Spares place before middle) (second : Spares place middle after) :
    Spares place before after :=
  ⟨fun location => (first.same location).trans (second.same location),
    second.kept.trans first.kept⟩

/-- A path that leads elsewhere still does. -/
theorem Spares.apart (spares : Spares place before after) (apart : before.locate path ≠ .ok place) :
    after.locate path ≠ .ok place :=
  mt spares.same.locate_iff.mpr apart

theorem Spares.target_eq (spares : Spares place before after)
    (writable : before.target path = .ok place) : after.target path = .ok place :=
  spares.same.target_iff.mp writable

theorem Spares.read_eq (spares : Spares place before after)
    (writable : before.target path = .ok place) : after.read path = before.read path := by
  rw [read_of_target (spares.target_eq writable), read_of_target writable, spares.kept]

theorem spares_place {other : Location} {content : Bytes} (hne : place ≠ other)
    (nodirectory : before.find? other ≠ some .directory) :
    Spares place before (before.place other (.file content)) :=
  ⟨sameDirectories_place content nodirectory, find?_place_other hne⟩

/-- Writing elsewhere leaves what is at a place. -/
theorem spares_write {content : Bytes} (apart : before.locate path ≠ .ok place)
    (written : before.write path content = .ok after) : Spares place before after := by
  obtain ⟨other, htarget, rfl⟩ := target_of_write written
  obtain ⟨hlocate, -, -, hnot⟩ := target_ok_iff.mp htarget
  exact spares_place (fun h => apart (h ▸ hlocate)) hnot

/-- Creating a file elsewhere leaves what is at a place. -/
theorem spares_touch (apart : before.locate path ≠ .ok place)
    (touched : before.touch path = .ok after) : Spares place before after := by
  rw [touch] at touched
  split at touched
  · cases touched
  · rename_i other htarget
    obtain ⟨hlocate, -, -, hnot⟩ := target_ok_iff.mp htarget
    split at touched
    · cases touched
      exact spares_refl place before
    · cases touched
      exact spares_place (fun h => apart (h ▸ hlocate)) hnot

end Disk

end GovernanceRelay
