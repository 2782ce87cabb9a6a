import GovernanceRelay.Text.Parts
import GovernanceRelay.Text.Utf8

/-!
# Files

A disk is a tree of directories and files around a working directory. A path is walked part by
part, and every part but the last has to lead to a directory. Paths and names are bounded in bytes.
Where a path leads depends on the directories alone (`SameDirectories.locate_iff`), and writing
leaves them. What was written under a path is read under it (`read_write_self`), and every other
file stays as it was (`read_write_other`).
-/

set_option autoImplicit false

namespace GovernanceRelay

/-- Why a file is not read or written. -/
inductive DiskError where
  /-- There is nothing at the path. -/
  | missing
  /-- There is a directory at the path. -/
  | isDirectory
  /-- The path goes on behind a file. -/
  | notDirectory
  /-- The path has a character that no path has. -/
  | invalidPath
  /-- The path or a name in it has too many bytes. -/
  | nameTooLong
  /-- The content of the file is no text. -/
  | notText
deriving DecidableEq, Repr

/-- The wording of each fault. -/
def DiskError.message : DiskError → String
  | .missing => "No such file or directory (os error 2)"
  | .isDirectory => "Is a directory (os error 21)"
  | .notDirectory => "Not a directory (os error 20)"
  | .invalidPath => "file name contained an unexpected NUL byte"
  | .nameTooLong => "File name too long (os error 36)"
  | .notText => "stream did not contain valid UTF-8"

/-- A place on the disk: the names that lead to it, the last one first, from the working directory
or, behind a slash, from the top. -/
abbrev Location := List String

/-- What is at a place. -/
inductive Node where
  /-- A directory. -/
  | directory
  /-- A file with its content. -/
  | file (content : Bytes)
deriving DecidableEq

/-- What is at which place; a place is listed at most once. -/
structure Disk where
  /-- The places with what is there. -/
  nodes : List (Location × Node)
deriving DecidableEq

namespace Disk

/-- The disk with nothing but directories that are always there. -/
def empty : Disk := ⟨[]⟩

/-- What is at a place. The working directory, those around it and the top are always there. -/
def find? (disk : Disk) (location : Location) : Option Node :=
  if location.all (· = "..") || location = ["/"] then some .directory
  else disk.nodes.lookup location

/-- The disk with something else at a place. -/
def place (disk : Disk) (location : Location) (node : Node) : Disk :=
  ⟨(location, node) :: disk.nodes.filter fun entry => entry.1 != location⟩

/-- The place to which a part leads. -/
def follow (location : Location) (part : String) : Location :=
  if part = "." then location
  else if part = ".." then
    match location with
    | [] => [".."]
    | ".." :: _ => ".." :: location
    | ["/"] => ["/"]
    | _ :: outer => outer
  else part :: location

/-- Whether a name has few enough bytes for a file or a directory. -/
def isName (part : String) : Bool := part.utf8ByteSize ≤ 255

/-- Walk into directories, one inside the other. -/
def enter (disk : Disk) (location : Location) : List String → Except DiskError Location
  | [] => .ok location
  | part :: parts =>
    if !isName part then .error .nameTooLong
    else
      match disk.find? (follow location part) with
      | none => .error .missing
      | some (.file _) => .error .notDirectory
      | some .directory => enter disk (follow location part) parts

/-- The parts of a path. -/
def parts (path : String) : List String :=
  (Text.splitText '/' path).filter fun part => !part.isEmpty

/-- Whether a path starts at the top. -/
def isAbsolute (path : String) : Bool := path.toList.head? == some '/'

/-- Whether a path ends in a slash, and so means a directory. -/
def meansDirectory (path : String) : Bool := path.toList.getLast? == some '/'

/-- The place to which a path leads, if all its parts but the last lead to directories. -/
def locate (disk : Disk) (path : String) : Except DiskError Location :=
  if path.toList.contains '\x00' then .error .invalidPath
  else if path.isEmpty then .error .missing
  else if 4096 ≤ path.utf8ByteSize then .error .nameTooLong
  else
    let start : Location := if isAbsolute path then ["/"] else []
    match (parts path).getLast? with
    | none => .ok start
    | some last =>
      match disk.enter start (parts path).dropLast with
      | .error error => .error error
      | .ok location => .ok (follow location last)

/-- Whether the last name that leads to a place is one. -/
def isNamed (location : Location) : Bool := location.head?.all isName

/-- The content of the file at a path. -/
def read (disk : Disk) (path : String) : Except DiskError Bytes :=
  match disk.locate path with
  | .error error => .error error
  | .ok location =>
    if !isNamed location then .error .nameTooLong
    else
      match disk.find? location with
      | none => .error .missing
      | some .directory => .error .isDirectory
      | some (.file content) => if meansDirectory path then .error .notDirectory else .ok content

/-- The text in the file at a path. -/
def readText (disk : Disk) (path : String) : Except DiskError String :=
  match disk.read path with
  | .error error => .error error
  | .ok content =>
    match Text.ofBytes? content with
    | none => .error .notText
    | some text => .ok text

/-- Whether there is a file or a directory at a path. -/
def contains (disk : Disk) (path : String) : Bool :=
  match disk.read path with
  | .ok _ => true
  | .error .isDirectory => true
  | .error _ => false

/-- The place of the file that writing to a path creates or replaces. -/
def target (disk : Disk) (path : String) : Except DiskError Location :=
  match disk.locate path with
  | .error error => .error error
  | .ok location =>
    if meansDirectory path then .error .isDirectory
    else if !isNamed location then .error .nameTooLong
    else if disk.find? location = some .directory then .error .isDirectory
    else .ok location

/-- Give the file at a path a content, creating the file if there is none. -/
def write (disk : Disk) (path : String) (content : Bytes) : Except DiskError Disk :=
  match disk.target path with
  | .error error => .error error
  | .ok location => .ok (disk.place location (.file content))

/-- Create an empty file at a path unless there is a file. -/
def touch (disk : Disk) (path : String) : Except DiskError Disk :=
  match disk.target path with
  | .error error => .error error
  | .ok location =>
    match disk.find? location with
    | some _ => .ok disk
    | none => .ok (disk.place location (.file []))

/-- Create the directories that lead to a place and are not there. -/
def makeParents (disk : Disk) : Location → Disk
  | [] => disk
  | _ :: outer =>
    match disk.find? outer with
    | some _ => disk
    | none => (disk.makeParents outer).place outer .directory

/-- The disk with one more file, and with the directories that lead to it. -/
def withFile (disk : Disk) (path : String) (content : Bytes) : Disk :=
  let location := (parts path).foldl follow (if isAbsolute path then ["/"] else [])
  (disk.makeParents location).place location (.file content)

/-- The files below the working directory with the paths that lead to them. -/
def files (disk : Disk) : List (String × Bytes) :=
  disk.nodes.filterMap fun entry =>
    match entry.2 with
    | .directory => none
    | .file content => some ("/".intercalate entry.1.reverse, content)

/-! ## Writing and reading -/

theorem find?_place_self {disk : Disk} {location : Location} {content : Bytes}
    (h : disk.find? location ≠ some .directory) :
    (disk.place location (.file content)).find? location = some (.file content) := by
  unfold find? at h ⊢
  split
  · rename_i hroot
    simp [hroot] at h
  · simp [place]

theorem lookup_filter_ne {location other : Location} (h : other ≠ location)
    (nodes : List (Location × Node)) :
    (nodes.filter fun entry => entry.1 != location).lookup other = nodes.lookup other := by
  induction nodes with
  | nil => rfl
  | cons entry rest ih =>
    obtain ⟨place, node⟩ := entry
    by_cases hplace : place = location
    · subst hplace
      have hne : (other == place) = false := by simpa using h
      simp [List.lookup_cons, hne, ih]
    · simp only [List.filter_cons, bne_iff_ne, ne_eq, hplace, not_false_eq_true, ↓reduceIte,
        List.lookup_cons, ih]

theorem find?_place_other {disk : Disk} {location other : Location} {node : Node}
    (h : other ≠ location) : (disk.place location node).find? other = disk.find? other := by
  unfold find?
  split
  · rfl
  · have hne : (other == location) = false := by simpa using h
    simp [place, List.lookup_cons, hne, lookup_filter_ne h]

/-- Two disks have the same directories. -/
def SameDirectories (left right : Disk) : Prop :=
  ∀ location, left.find? location = some .directory ↔ right.find? location = some .directory

/-- A file takes the place of no directory and makes none. -/
theorem sameDirectories_place {disk : Disk} {location : Location} (content : Bytes)
    (h : disk.find? location ≠ some .directory) :
    SameDirectories disk (disk.place location (.file content)) := by
  intro other
  by_cases hother : other = location
  · subst hother
    simp [h, find?_place_self h]
  · rw [find?_place_other hother]

namespace SameDirectories

variable {left right : Disk} {path : String} {start found : Location}

theorem symm (same : SameDirectories left right) : SameDirectories right left :=
  fun location => (same location).symm

theorem enter_ok (same : SameDirectories left right) {parts : List String}
    (entered : left.enter start parts = .ok found) : right.enter start parts = .ok found := by
  induction parts generalizing start with
  | nil => exact entered
  | cons part rest ih =>
    rw [enter] at entered ⊢
    split at entered
    · cases entered
    · rename_i hname
      rw [if_neg hname]
      split at entered
      · cases entered
      · cases entered
      · rename_i hdirectory
        rw [(same _).mp hdirectory]
        exact ih entered

theorem locate_ok (same : SameDirectories left right) (located : left.locate path = .ok found) :
    right.locate path = .ok found := by
  unfold locate at located ⊢
  split at located
  · cases located
  · rename_i hchar
    rw [if_neg hchar]
    split at located
    · cases located
    · rename_i hempty
      rw [if_neg hempty]
      split at located
      · cases located
      · rename_i hlong
        rw [if_neg hlong]
        dsimp only at located ⊢
        split at located
        · exact located
        · split at located
          · cases located
          · rename_i hentered
            rw [same.enter_ok hentered]
            exact located

/-- A path leads to the same place on disks with the same directories. -/
theorem locate_iff (same : SameDirectories left right) :
    left.locate path = .ok found ↔ right.locate path = .ok found :=
  ⟨same.locate_ok, same.symm.locate_ok⟩

end SameDirectories

/-- What a path leads to when it was written to. -/
theorem target_ok_iff {disk : Disk} {path : String} {location : Location} :
    disk.target path = .ok location ↔
      disk.locate path = .ok location ∧ meansDirectory path = false
        ∧ isNamed location = true ∧ disk.find? location ≠ some .directory := by
  unfold target
  cases hlocate : disk.locate path with
  | error error => simp
  | ok found =>
    cases hmeans : meansDirectory path with
    | true => simp
    | false =>
      simp only [Bool.false_eq_true, ↓reduceIte]
      split
      · rename_i hname
        constructor
        · intro h; cases h
        · rintro ⟨h, _, hnamed, _⟩; cases h; simp [hnamed] at hname
      · rename_i hname
        split
        · rename_i hdirectory
          constructor
          · intro h; cases h
          · rintro ⟨h, _, _, hnot⟩; cases h; exact absurd hdirectory hnot
        · rename_i hnot
          constructor
          · intro h; cases h; exact ⟨rfl, trivial, by simpa using hname, hnot⟩
          · rintro ⟨h, _⟩; exact h

/-- Writing to a path replaces the same file on disks with the same directories. -/
theorem SameDirectories.target_iff {left right : Disk} (same : SameDirectories left right)
    {path : String} {location : Location} :
    left.target path = .ok location ↔ right.target path = .ok location := by
  rw [target_ok_iff, target_ok_iff, same.locate_iff, ne_eq, same location]

theorem write_of_target {disk : Disk} {path : String} {location : Location} (content : Bytes)
    (writable : disk.target path = .ok location) :
    disk.write path content = .ok (disk.place location (.file content)) := by
  rw [write, writable]

theorem target_of_write {disk after : Disk} {path : String} {content : Bytes}
    (written : disk.write path content = .ok after) :
    ∃ location, disk.target path = .ok location ∧
      after = disk.place location (.file content) := by
  unfold write at written
  split at written
  · cases written
  · rename_i location htarget
    cases written
    exact ⟨location, htarget, rfl⟩

/-- Writing leaves the directories. -/
theorem sameDirectories_write {disk after : Disk} {path : String} {content : Bytes}
    (written : disk.write path content = .ok after) : SameDirectories disk after := by
  obtain ⟨location, htarget, rfl⟩ := target_of_write written
  exact sameDirectories_place content (target_ok_iff.mp htarget).2.2.2

/-- What is read under a path that can be written to is the file at the place to which it leads. -/
theorem read_of_target {disk : Disk} {path : String} {location : Location}
    (writable : disk.target path = .ok location) :
    disk.read path = match disk.find? location with
      | some (.file content) => .ok content
      | _ => .error .missing := by
  obtain ⟨hlocate, hmeans, hnamed, hnot⟩ := target_ok_iff.mp writable
  rw [read, hlocate]
  cases hfind : disk.find? location with
  | none => simp [hnamed, hfind]
  | some node =>
    cases node with
    | directory => exact absurd hfind hnot
    | file content => simp [hnamed, hmeans, hfind]

/-- There is something under a path that can be written to exactly if there is something at the
place to which it leads. -/
theorem contains_iff_of_target {disk : Disk} {path : String} {location : Location}
    (writable : disk.target path = .ok location) :
    disk.contains path = true ↔ disk.find? location ≠ none := by
  have hnot := (target_ok_iff.mp writable).2.2.2
  rw [contains, read_of_target writable]
  cases hfind : disk.find? location with
  | none => simp
  | some node =>
    cases node with
    | directory => exact absurd hfind hnot
    | file content => simp

/-- Reading a path gives what was written to it. -/
theorem read_write_self {disk after : Disk} {path : String} {content : Bytes}
    (written : disk.write path content = .ok after) : after.read path = .ok content := by
  have hsame := sameDirectories_write written
  obtain ⟨location, htarget, rfl⟩ := target_of_write written
  have hnot := (target_ok_iff.mp htarget).2.2.2
  rw [read_of_target (hsame.target_iff.mp htarget), find?_place_self hnot]

/-- Reading a path that led to another file gives what it gave. -/
theorem read_write_other {disk after : Disk} {path other : String} {content : Bytes}
    {location : Location} (written : disk.write path content = .ok after)
    (located : disk.locate other = .ok location) (apart : disk.locate path ≠ .ok location) :
    after.read other = disk.read other := by
  have hlocated := (sameDirectories_write written).locate_ok located
  obtain ⟨place, htarget, rfl⟩ := target_of_write written
  have hne : location ≠ place := fun h => apart (h ▸ (target_ok_iff.mp htarget).1)
  simp only [read, hlocated, located, find?_place_other hne]

end Disk

end GovernanceRelay
