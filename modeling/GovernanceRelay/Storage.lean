import GovernanceRelay.Disk
import GovernanceRelay.Settings
import GovernanceRelay.Snapshot

/-!
# Governance and progress on disk

A governance and a ledger are saved to a file each and loaded from it. What was saved is loaded
(`load_save`). Where nothing has been saved yet, a governance begins as the settings say.
-/

set_option autoImplicit false

namespace GovernanceRelay

/-- Why a file is not saved or loaded. -/
inductive StorageError where
  /-- The file is not read. -/
  | unreadable (path : String) (error : DiskError)
  /-- The file is not written. -/
  | unwritable (path : String) (error : DiskError)
  /-- The content of the file is refused, or there is none to be written. -/
  | refused (error : SnapshotError)
deriving DecidableEq

/-- The wording of each fault. -/
def StorageError.message : StorageError → String
  | .unreadable path error =>
    "Snapshot error: failed to read '" ++ path ++ "': " ++ error.message
  | .unwritable path error =>
    "Snapshot error: failed to write '" ++ path ++ "': " ++ error.message
  | .refused error => error.message

namespace Disk

/-- Save bytes to a file. -/
def save (disk : Disk) (path : String) (bytes : Bytes) : Except StorageError Disk :=
  match disk.write path bytes with
  | .error error => .error (.unwritable path error)
  | .ok disk => .ok disk

/-- Load what the bytes of a file stand for. -/
def load {α : Type} (disk : Disk) (path : String) (parse : Bytes → Except SnapshotError α) :
    Except StorageError α :=
  match disk.read path with
  | .error error => .error (.unreadable path error)
  | .ok bytes =>
    match parse bytes with
    | .error error => .error (.refused error)
    | .ok value => .ok value

/-- What was saved is loaded. -/
theorem load_save {α : Type} {disk after : Disk} {path : String} {bytes : Bytes}
    {parse : Bytes → Except SnapshotError α} {value : α}
    (saved : disk.save path bytes = .ok after) (parsed : parse bytes = .ok value) :
    after.load path parse = .ok value := by
  unfold save at saved
  split at saved
  · cases saved
  · rename_i written hwrite
    cases saved
    simp [load, read_write_self hwrite, parsed]

end Disk

/-- Save a governance to a file. -/
def Governance.save (governance : Governance) (disk : Disk) (path : String) :
    Except StorageError Disk :=
  match governance.snapshot.encode with
  | .error error => .error (.refused error)
  | .ok bytes => disk.save path bytes

/-- Load a governance from a file. -/
def Governance.load (disk : Disk) (path : String) : Except StorageError Governance :=
  disk.load path Governance.ofBytes

/-- Save a ledger to a file. -/
def Ledger.save (ledger : Ledger) (disk : Disk) (path : String) : Except StorageError Disk :=
  match ledger.encode with
  | .error error => .error (.refused error)
  | .ok bytes => disk.save path bytes

/-- Load a ledger from a file. -/
def Ledger.load (disk : Disk) (path : String) : Except StorageError Ledger :=
  disk.load path Ledger.ofBytes

/-- Why there is no governance to work on. -/
inductive OpeningError where
  /-- The saved one is not loaded. -/
  | saved (error : StorageError)
  /-- A new one does not begin. -/
  | seed (error : SeedError)
deriving DecidableEq

/-- The wording of each fault. -/
def OpeningError.message : OpeningError → String
  | .saved error => error.message
  | .seed error => error.message

namespace Settings

/-- The governance that the settings mean: the saved one, or a new one where nothing is saved. -/
def openState (settings : Settings) (disk : Disk) : Except OpeningError Governance :=
  if disk.contains settings.statePath then
    (Governance.load disk settings.statePath).mapError .saved
  else settings.seed.mapError .seed

/-- Save the governance where the settings say. -/
def saveState (settings : Settings) (governance : Governance) (disk : Disk) :
    Except StorageError Disk :=
  governance.save disk settings.statePath

end Settings

end GovernanceRelay
