import GovernanceRelay.Proofs.AllowList
import GovernanceRelay.Proofs.Console.Actions
import GovernanceRelay.Proofs.Governance.Granted

/-!
# What commands count

A command that succeeds counts what it has done (`Command.counts`). A command that fails has counted
nothing, except that a byte string that is no batch is counted, and a batch that is not let through
(`Failure.counts`). So these are counted by commands that fail only: `Console.counts_execute` tells
the counters after every command from its result.
-/

set_option autoImplicit false

namespace GovernanceRelay

open GovernanceRelay.Action

/-- What a command has counted that fails in this way. -/
def Failure.counts : Failure → Counters → Counters
  | .undecodable _ => Counters.countDecodeFailure
  | .offence _ => (·.countReview false)
  | .forward _ => (·.countReview false)
  | _ => id

/-- What a command counts if it succeeds. -/
def Command.counts : Command → Counters → Counters
  | .review _ _ _ => (·.countReview true)
  | .setMediator _ _ => Counters.countMediator
  | .setPolicy _ _ _ _ => (·.countPolicies 1)
  | _ => id

/-- A command that succeeds has counted no rejected batch and no byte string that is no batch. -/
theorem Command.counts_zero (command : Command) :
    (command.counts Counters.zero).rejected = 0 ∧
      (command.counts Counters.zero).decodeFailures = 0 := by
  cases command <;> exact ⟨rfl, rfl⟩

namespace Action

variable {α β : Type} {update : Counters → Counters}

/-- The action counts what a function says if it succeeds, and what its failure says otherwise. -/
def Counts (action : Action α) (update : Counters → Counters) : Prop :=
  ∀ desk, (action desk).2.counters = match (action desk).1 with
    | .ok _ => update desk.counters
    | .error failure => failure.counts desk.counters

/-- The action counts nothing and does not fail. -/
def Shows (action : Action Unit) : Prop :=
  ∀ desk, (action desk).1 = .ok () ∧ (action desk).2.counters = desk.counters

/-! ## Single actions -/

theorem counts_done (value : α) : Counts (done value) id := fun _ => rfl

theorem counts_fail {failure : Failure} (quiet : failure.counts = id) :
    Counts (fail failure : Action α) update :=
  fun desk => (congrFun quiet desk.counters).symm

theorem counts_attempt {ε : Type} {failure : ε → Failure}
    (quiet : ∀ error, (failure error).counts = id) (result : Except ε α) :
    Counts (attempt failure result) id := by
  cases result with
  | ok value => exact counts_done value
  | error error => exact counts_fail (quiet error)

theorem counts_look (question : Disk → α) : Counts (look question) id := fun _ => rfl

theorem counts_consult {ε : Type} {failure : ε → Failure}
    (quiet : ∀ error, (failure error).counts = id) (question : Disk → Except ε α) :
    Counts (consult failure question) id :=
  fun desk => counts_attempt quiet (question desk.disk) desk

theorem counts_change {ε : Type} {failure : ε → Failure}
    (quiet : ∀ error, (failure error).counts = id) (write : Disk → Except ε Disk) :
    Counts (change failure write) id := by
  intro desk
  rw [change]
  cases write desk.disk with
  | ok disk => rfl
  | error error => exact (congrFun (quiet error) desk.counters).symm

theorem counts_count (update : Counters → Counters) : Counts (count update) update := fun _ => rfl

theorem counts_say (line : String) : Counts (say line) id := fun _ => rfl

theorem counts_complain (line : String) : Counts (complain line) id := fun _ => rfl

theorem shows_done : Shows (done ()) := fun _ => ⟨rfl, rfl⟩

theorem shows_say (line : String) : Shows (say line) := fun _ => ⟨rfl, rfl⟩

/-! ## One action after another -/

/-- Where nothing is counted first, what comes next tells what is counted. -/
theorem Counts.bind {first : Action α} {next : α → Action β} (hfirst : Counts first id)
    (hnext : ∀ value, Counts (next value) update) : Counts (first >>= next) update := by
  intro desk
  have hcounters := hfirst desk
  rw [bind_apply]
  cases hrun : first desk with
  | mk result later =>
    rw [hrun] at hcounters
    cases result with
    | error failure => exact hcounters
    | ok value =>
      -- nothing is counted so far, so all that is counted is counted by what comes next
      have hlater := hnext value later
      rw [show later.counters = desk.counters from hcounters] at hlater
      exact hlater

/-- A report at the end changes nothing of what is counted. -/
theorem Counts.bind_shows {first : Action α} {next : α → Action Unit} (hfirst : Counts first update)
    (hnext : ∀ value, Shows (next value)) : Counts (first >>= next) update := by
  intro desk
  have hcounters := hfirst desk
  rw [bind_apply]
  cases hrun : first desk with
  | mk result later =>
    rw [hrun] at hcounters
    cases result with
    | error failure => exact hcounters
    | ok value =>
      obtain ⟨hresult, hkept⟩ := hnext value later
      dsimp only at hcounters ⊢
      rw [hresult, hkept]
      exact hcounters

/-- Where a result is taken, what comes next may use that it is the result. -/
theorem counts_attempt_bind {ε : Type} {failure : ε → Failure}
    (quiet : ∀ error, (failure error).counts = id) {result : Except ε α} {next : α → Action β}
    (hnext : ∀ value, result = .ok value → Counts (next value) update) :
    Counts (attempt failure result >>= next) update := by
  cases result with
  | ok value => exact hnext value rfl
  | error error => exact counts_fail (quiet error)

/-- A verdict is counted, whether it is taken or not. -/
theorem counts_verdict {ε : Type} {failure : ε → Failure}
    (rejects : ∀ error, (failure error).counts = (·.countReview false)) (verdict : Except ε α)
    {next : α → Action Unit} (hnext : ∀ value, Shows (next value)) :
    Counts (count (·.countReview verdict.isOk) >>= fun _ => attempt failure verdict >>= next)
      (·.countReview true) := by
  cases verdict with
  | ok value => exact (counts_count _).bind_shows fun _ => hnext value
  | error error => exact fun desk => (congrFun (rejects error) desk.counters).symm

theorem Shows.bind {first : Action Unit} {next : Unit → Action Unit} (hfirst : Shows first)
    (hnext : Shows (next ())) : Shows (first >>= next) := by
  intro desk
  obtain ⟨hresult, hkept⟩ := hfirst desk
  rw [bind_apply]
  cases hrun : first desk with
  | mk result later =>
    rw [hrun] at hresult hkept
    cases hresult
    exact ⟨(hnext later).1, (hnext later).2.trans hkept⟩

theorem counts_sayAll (lines : List String) : Counts (sayAll lines) id := by
  induction lines with
  | nil => exact counts_done ()
  | cons line rest ih => exact (counts_say line).bind fun _ => ih

end Action

namespace Console

variable (context : Context) (settings : Settings)

/-! ## What commands share -/

theorem counts_openState : Counts (openState settings) id := counts_consult (fun _ => rfl) _

theorem counts_saveState (governance : Governance) : Counts (saveState settings governance) id :=
  counts_change (fun _ => rfl) _

theorem counts_readBatch (path : String) : Counts (readBatch path) id :=
  (counts_consult (fun _ => rfl) _).bind fun _ => counts_attempt (fun _ => rfl) _

/-! ## Commands -/

theorem counts_encode (file : String) : Counts (encode file) id :=
  (counts_readBatch file).bind fun _ => (counts_attempt (fun _ => rfl) _).bind fun _ =>
    (counts_say _).bind fun _ => counts_say _

/-- Text that is not hexadecimal is not counted, bytes that are no batch are. -/
theorem counts_decodeText (hex : String) (count : Option Nat) :
    Counts (decodeText hex count) id := by
  refine (counts_attempt (fun _ => rfl) _).bind fun bytes => ?_
  dsimp only
  split
  · exact counts_done _
  · exact fun _ => rfl

theorem counts_decode (hex : String) (count : Option Nat) : Counts (decode hex count) id :=
  (counts_decodeText hex count).bind fun _ => (counts_say _).bind fun _ => counts_say _

theorem counts_review (batch : Batch) (chain : ChainId) (mode : Option ForwardMode) :
    Counts (review settings batch chain mode) (·.countReview true) := by
  refine (counts_openState settings).bind fun governance => ?_
  cases mode with
  | none => exact counts_verdict (fun _ => rfl) _ fun _ => shows_say _
  | some mode =>
    exact counts_verdict (fun _ => rfl) _ fun _ =>
      (shows_say _).bind ((shows_say _).bind (shows_say _))

theorem counts_setMediator (chain : ChainId) (mediator : Address) :
    Counts (setMediator context chain mediator) Counters.countMediator := by
  refine (counts_openState _).bind fun _ => (counts_attempt (fun _ => rfl) _).bind fun granted =>
    (counts_saveState _ _).bind fun _ => (counts_count _).bind_shows fun _ => (shows_say _).bind ?_
  cases granted.1 with
  | none => exact shows_done
  | some previous =>
    change Shows (if previous = mediator then _ else _)
    split
    · exact shows_done
    · exact shows_say _

theorem counts_showMediator (chain : ChainId) : Counts (showMediator settings chain) id := by
  refine (counts_openState settings).bind fun governance => ?_
  cases governance.mediatorOf chain with
  | none => exact counts_say _
  | some mediator => exact counts_say _

theorem counts_listMediators : Counts (listMediators settings) id := by
  refine (counts_openState settings).bind fun governance => ?_
  split
  · exact counts_say _
  · exact counts_say _

/-- The update has one entry, so one is applied. -/
theorem counts_setPolicy (target : Address) (function : String) (chain : ChainId)
    (allowed : Bool) :
    Counts (setPolicy context target function chain allowed) (·.countPolicies 1) := by
  refine (counts_attempt (fun _ => rfl) _).bind fun selector => (counts_openState _).bind fun _ =>
    counts_attempt_bind (fun _ => rfl) fun granted hgranted =>
      (counts_saveState _ _).bind fun _ => ?_
  -- what is counted is the number of entries of the update that was granted
  obtain ⟨-, updated, hupdated, rfl⟩ := (Governance.setPolicies_eq_ok_iff _ _ _ _).mp hgranted
  obtain ⟨-, -, rfl⟩ := (AllowList.update_eq_ok_iff _ _ _).mp hupdated
  exact (counts_count _).bind_shows fun _ => shows_say _

theorem counts_checkPolicy (target : Address) (function : String) (chain : ChainId) :
    Counts (checkPolicy settings target function chain) id := by
  refine (counts_attempt (fun _ => rfl) _).bind fun selector =>
    (counts_openState settings).bind fun governance => ?_
  cases governance.policies.lookup ⟨target, selector, chain⟩ with
  | none => exact counts_complain _
  | some allowed =>
    cases allowed with
    | false => exact counts_complain _
    | true => exact counts_say _

theorem counts_listPolicies : Counts (listPolicies settings) id :=
  (counts_openState settings).bind fun _ => (counts_say _).bind fun _ => counts_say _

theorem counts_setRoute (entrypoint : Address) (destination : ChainId) :
    Counts (setRoute context entrypoint destination) id :=
  (counts_openState _).bind fun _ => (counts_attempt (fun _ => rfl) _).bind fun _ =>
    (counts_saveState _ _).bind fun _ => counts_say _

theorem counts_transition (old new : Address) (roles : List Role) (together dryRun : Bool) :
    Counts (transition context old new roles together dryRun) id := by
  refine (counts_openState _).bind fun governance => (counts_say _).bind fun _ =>
    (counts_sayAll _).bind fun _ => ?_
  -- a handover in one step has no gaps to report
  cases together with
  | true =>
    cases dryRun with
    | true => exact counts_say _
    | false =>
      exact (counts_attempt (fun _ => rfl) _).bind fun _ => (counts_saveState _ _).bind fun _ =>
        counts_say _
  | false =>
    refine (counts_sayAll _).bind fun _ => ?_
    cases dryRun with
    | true => exact counts_say _
    | false =>
      exact (counts_attempt (fun _ => rfl) _).bind fun _ => (counts_saveState _ _).bind fun _ =>
        counts_say _

/-! ## Settings -/

theorem counts_writeSettings (path : String) : Counts (writeSettings settings path) id := by
  rw [writeSettings]
  split
  · exact counts_fail rfl
  · exact counts_change (fun _ => rfl) _

theorem counts_writeDefaults (path : String) (force : Bool) :
    Counts (writeDefaults path force) id := by
  refine (counts_look _).bind fun present => ?_
  split
  · exact counts_fail rfl
  · exact (counts_writeSettings _ path).bind fun _ => counts_say _

/-! ## All commands -/

/-- Every command counts what it has done if it succeeds, and otherwise what its failure says. -/
theorem counts_execute (command : Command) : Counts (execute context command) command.counts := by
  cases command with
  | encode file => exact counts_encode file
  | decode hex count => exact counts_decode hex count
  | selector signature => exact (counts_attempt (fun _ => rfl) _).bind fun _ => counts_say _
  | review file chain mode =>
    exact (counts_readBatch file).bind fun batch => counts_review context.settings batch _ mode
  | setMediator chain mediator => exact counts_setMediator context chain mediator
  | showMediator chain => exact counts_showMediator context.settings chain
  | listMediators => exact counts_listMediators context.settings
  | setPolicy target function chain allowed =>
    exact counts_setPolicy context target function chain allowed
  | checkPolicy target function chain =>
    exact counts_checkPolicy context.settings target function chain
  | listPolicies => exact counts_listPolicies context.settings
  | route entrypoint destination => exact counts_setRoute context entrypoint destination
  | transition old new roles together dryRun =>
    exact counts_transition context old new roles together dryRun
  | init force => exact counts_writeDefaults context.settingsPath force

end Console

end GovernanceRelay
