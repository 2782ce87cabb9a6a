import GovernanceRelay.Console

/-!
# Actions and the files

An action that only looks and reports leaves the files as they are, whether it fails or not
(`Action.KeepsDisk`). What a command reports at its end, after the files are written, does not fail
either (`Action.Tells`). An action may also write to one file only (`Action.WritesOnly`), or change
nothing at all (`Action.Looks`). What holds of the parts of an action in this way holds of the
whole.
-/

set_option autoImplicit false

namespace GovernanceRelay

namespace Action

variable {α β : Type}

/-- The action leaves the files as they are. -/
def KeepsDisk (action : Action α) : Prop := ∀ desk, (action desk).2.disk = desk.disk

/-- The action leaves the files as they are and does not fail. -/
def Tells (action : Action Unit) : Prop :=
  ∀ desk, (action desk).1 = .ok () ∧ (action desk).2.disk = desk.disk

/-- The action writes to no file but the one at a path. -/
def WritesOnly (path : String) (action : Action α) : Prop :=
  ∀ desk, (action desk).2.disk = desk.disk ∨
    ∃ content, desk.disk.write path content = .ok (action desk).2.disk

/-! ## Actions that leave the files -/

theorem keepsDisk_done (value : α) : KeepsDisk (done value) := fun _ => rfl

theorem keepsDisk_fail (failure : Failure) : KeepsDisk (fail failure : Action α) := fun _ => rfl

theorem keepsDisk_attempt {ε : Type} (failure : ε → Failure) (result : Except ε α) :
    KeepsDisk (attempt failure result) := by
  cases result with
  | ok value => exact keepsDisk_done value
  | error error => exact keepsDisk_fail (failure error)

theorem keepsDisk_look (question : Disk → α) : KeepsDisk (look question) := fun _ => rfl

theorem keepsDisk_consult {ε : Type} (failure : ε → Failure) (question : Disk → Except ε α) :
    KeepsDisk (consult failure question) :=
  fun desk => keepsDisk_attempt failure (question desk.disk) desk

theorem KeepsDisk.bind {first : Action α} {next : α → Action β} (hfirst : KeepsDisk first)
    (hnext : ∀ value, KeepsDisk (next value)) : KeepsDisk (first >>= next) := by
  intro desk
  have hdisk := hfirst desk
  rw [bind_apply]
  cases hrun : first desk with
  | mk result later =>
    rw [hrun] at hdisk
    cases result with
    | error failure => exact hdisk
    | ok value => exact (hnext value later).trans hdisk

/-! ## Reports -/

theorem Tells.keepsDisk {action : Action Unit} (tells : Tells action) : KeepsDisk action :=
  fun desk => (tells desk).2

theorem tells_done : Tells (done ()) := fun _ => ⟨rfl, rfl⟩

theorem tells_count (update : Counters → Counters) : Tells (count update) := fun _ => ⟨rfl, rfl⟩

theorem tells_say (line : String) : Tells (say line) := fun _ => ⟨rfl, rfl⟩

theorem tells_complain (line : String) : Tells (complain line) := fun _ => ⟨rfl, rfl⟩

theorem tells_succeed (message : String) : Tells (succeed message) := tells_say _

theorem tells_warn (message : String) : Tells (warn message) := tells_say _

theorem tells_inform (message : String) : Tells (inform message) := tells_say _

theorem tells_deny (message : String) : Tells (deny message) := tells_complain _

/-- After a report the next action goes on with the same files. -/
theorem Tells.bind_eq {first : Action Unit} (tells : Tells first) (next : Unit → Action β)
    (desk : Desk) :
    ∃ later, (first >>= next) desk = next () later ∧ later.disk = desk.disk := by
  obtain ⟨hresult, hdisk⟩ := tells desk
  refine ⟨(first desk).2, ?_, hdisk⟩
  rw [bind_apply]
  cases hrun : first desk with
  | mk result later =>
    rw [hrun] at hresult
    cases hresult
    rfl

theorem Tells.bind {first : Action Unit} {next : Unit → Action Unit} (hfirst : Tells first)
    (hnext : Tells (next ())) : Tells (first >>= next) := by
  intro desk
  obtain ⟨later, hrun, hdisk⟩ := hfirst.bind_eq next desk
  rw [hrun, ← hdisk]
  exact hnext later

theorem tells_sayAll (lines : List String) : Tells (sayAll lines) := by
  induction lines with
  | nil => exact tells_done
  | cons line rest ih => exact (tells_say line).bind ih

/-! ## Actions that write one file -/

theorem KeepsDisk.writesOnly {action : Action α} (keeps : KeepsDisk action) (path : String) :
    WritesOnly path action :=
  fun desk => .inl (keeps desk)

theorem writesOnly_write {failure : DiskError → Failure} (path : String) (content : Bytes) :
    WritesOnly path (change failure (·.write path content)) := by
  intro desk
  rw [change]
  cases hwrite : desk.disk.write path content with
  | error error => exact .inl rfl
  | ok disk => exact .inr ⟨content, hwrite⟩

theorem KeepsDisk.bind_writesOnly {first : Action α} {next : α → Action β} {path : String}
    (hfirst : KeepsDisk first) (hnext : ∀ value, WritesOnly path (next value)) :
    WritesOnly path (first >>= next) := by
  intro desk
  have hdisk := hfirst desk
  rw [bind_apply]
  cases hrun : first desk with
  | mk result later =>
    rw [hrun] at hdisk
    cases result with
    | error failure => exact .inl hdisk
    | ok value =>
      rw [← hdisk]
      exact hnext value later

theorem WritesOnly.bind_keepsDisk {first : Action α} {next : α → Action β} {path : String}
    (hfirst : WritesOnly path first) (hnext : ∀ value, KeepsDisk (next value)) :
    WritesOnly path (first >>= next) := by
  intro desk
  have hdisk := hfirst desk
  rw [bind_apply]
  cases hrun : first desk with
  | mk result later =>
    rw [hrun] at hdisk
    cases result with
    | error failure => exact hdisk
    | ok value =>
      change (next value later).2.disk = desk.disk ∨
        ∃ content, desk.disk.write path content = .ok (next value later).2.disk
      rw [hnext value later]
      exact hdisk

/-! ## Actions that change nothing -/

/-- The action changes nothing at the desk. -/
def Looks (action : Action α) : Prop := ∀ desk, (action desk).2 = desk

theorem looks_done (value : α) : Looks (done value) := fun _ => rfl

theorem looks_fail (failure : Failure) : Looks (fail failure : Action α) := fun _ => rfl

theorem looks_attempt {ε : Type} (failure : ε → Failure) (result : Except ε α) :
    Looks (attempt failure result) := by
  cases result with
  | ok value => exact looks_done value
  | error error => exact looks_fail (failure error)

theorem looks_look (question : Disk → α) : Looks (look question) := fun _ => rfl

theorem looks_consult {ε : Type} (failure : ε → Failure) (question : Disk → Except ε α) :
    Looks (consult failure question) :=
  fun desk => looks_attempt failure (question desk.disk) desk

theorem Looks.bind {first : Action α} {next : α → Action β} (hfirst : Looks first)
    (hnext : ∀ value, Looks (next value)) : Looks (first >>= next) := by
  intro desk
  have hdesk := hfirst desk
  rw [bind_apply]
  cases hrun : first desk with
  | mk result later =>
    rw [hrun] at hdesk
    cases result with
    | error failure => exact hdesk
    | ok value => exact (hnext value later).trans hdesk

/-! ## One action after another -/

theorem andThen_done (action : Action α) : andThen action done = action := by
  funext desk
  rw [andThen]
  cases action desk with
  | mk result later => cases result <;> rfl

theorem andThen_assoc {γ : Type} (first : Action α) (next : α → Action β)
    (last : β → Action γ) :
    andThen (andThen first next) last = andThen first fun value => andThen (next value) last := by
  funext desk
  simp only [andThen]
  cases first desk with
  | mk result later => cases result <;> rfl

instance : LawfulMonad Action := .mk' Action andThen_done (fun _ _ => rfl) andThen_assoc

/-- An action goes on exactly after one that succeeds. -/
theorem bind_eq_ok_iff {first : Action α} {next : α → Action β} {desk later : Desk} {value : β} :
    (first >>= next) desk = (.ok value, later) ↔
      ∃ given middle, first desk = (.ok given, middle) ∧
        next given middle = (.ok value, later) := by
  rw [bind_apply]
  cases first desk with
  | mk result middle =>
    cases result with
    | error failure => simp
    | ok given => simp [and_assoc]

end Action

end GovernanceRelay
