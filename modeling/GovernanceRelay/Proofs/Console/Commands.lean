import GovernanceRelay.Proofs.Console.Actions
import GovernanceRelay.Proofs.Governance.Request

/-!
# What commands do to the files

A command either makes a request to the governance that is saved or makes none (`Order.request?`).
If it makes one, it opens the governance, asks, saves what is granted and reports: whether it fails
and what becomes of the files is told by `Settings.amend` (`Order.does_execute`). If it makes none,
it writes nothing but perhaps the settings (`Order.writesOnly_execute`).
-/

set_option autoImplicit false

namespace GovernanceRelay

open GovernanceRelay.Action

/-! ## Requests to the governance that is saved -/

namespace Settings

/-- Save a governance. -/
def store (settings : Settings) (governance : Governance) (disk : Disk) :
    Except Failure Unit × Disk :=
  match settings.saveState governance disk with
  | .error error => (.error (.saving error), disk)
  | .ok disk => (.ok (), disk)

/-- Make a request to a governance and save what is granted. -/
def ask (settings : Settings) (governance : Governance) (request : GovernanceRequest)
    (disk : Disk) : Except Failure Unit × Disk :=
  match governance.answer request with
  | .error error => (.error (.governance error), disk)
  | .ok (_, changed) => settings.store changed disk

/-- Open the governance, make a request to it and save what is granted. -/
def amend (settings : Settings) (request : GovernanceRequest) (disk : Disk) :
    Except Failure Unit × Disk :=
  match settings.openState disk with
  | .error error => (.error (.opening error), disk)
  | .ok governance => settings.ask governance request disk

end Settings

namespace Action

/-- Whether the action fails and what becomes of the files is told by a function of the files. -/
def Does (action : Action Unit) (effect : Disk → Except Failure Unit × Disk) : Prop :=
  ∀ desk, ((action desk).1, (action desk).2.disk) = effect desk.disk

/-- A report in front changes nothing of what is done. -/
theorem Tells.bind_does {first : Action Unit} {next : Unit → Action Unit}
    {effect : Disk → Except Failure Unit × Disk} (tells : Tells first)
    (hnext : Does (next ()) effect) : Does (first >>= next) effect := by
  intro desk
  obtain ⟨later, hrun, hdisk⟩ := tells.bind_eq next desk
  rw [hrun, ← hdisk]
  exact hnext later

variable {settings : Settings} {request : GovernanceRequest}

theorem does_saveState (governance : Governance) {report : Action Unit} (tells : Tells report) :
    Does (Console.saveState settings governance >>= fun _ => report)
      (settings.store governance) := by
  intro desk
  rw [bind_apply, Console.saveState, change, Settings.store]
  cases settings.saveState governance desk.disk with
  | error error => rfl
  | ok disk =>
    obtain ⟨hresult, hdisk⟩ := tells { desk with disk := disk }
    exact Prod.ext hresult hdisk

/-- Asking, and then doing something with what is granted. -/
theorem does_attempt {α : Type} {governance : Governance} {asked : Except GovernanceError α}
    {outcome : α → GovernanceReport × Governance} {next : α → Action Unit}
    (hanswer : governance.answer request = asked.map outcome)
    (hnext : ∀ granted, Does (next granted) (settings.store (outcome granted).2)) :
    Does (attempt .governance asked >>= next) (settings.ask governance request) := by
  intro desk
  rw [bind_apply, Settings.ask, hanswer]
  cases asked with
  | error error => rfl
  | ok granted => exact hnext granted desk

theorem does_openState {next : Governance → Action Unit}
    (hnext : ∀ governance, Does (next governance) (settings.ask governance request)) :
    Does (Console.openState settings >>= next) (settings.amend request) := by
  intro desk
  rw [bind_apply, Console.openState, consult, Settings.amend]
  cases settings.openState desk.disk with
  | error error => rfl
  | ok governance => exact hnext governance desk

end Action

namespace Console

variable (context : Context)

theorem does_setMediator (chain : ChainId) (mediator : Address) :
    Does (setMediator context chain mediator)
      (context.settings.amend (.setMediator context.caller chain mediator)) := by
  refine does_openState fun governance => does_attempt rfl fun granted => ?_
  obtain ⟨previous, changed⟩ := granted
  refine does_saveState changed ((tells_count _).bind ((tells_succeed _).bind ?_))
  cases previous with
  | none => exact tells_done
  | some previous =>
    change Tells (if previous = mediator then _ else _)
    split
    · exact tells_done
    · exact tells_warn _

theorem does_setRoute (entrypoint : Address) (destination : ChainId) :
    Does (setRoute context entrypoint destination)
      (context.settings.amend (.setRoute context.caller entrypoint destination)) :=
  does_openState fun _ => does_attempt rfl fun changed =>
    does_saveState changed (tells_succeed _)

theorem does_setPolicy (target : Address) {function : String} {selector : Selector}
    (parsed : Selector.parseAny function = .ok selector) (chain : ChainId) (allowed : Bool) :
    Does (setPolicy context target function chain allowed)
      (context.settings.amend
        (.setPolicies context.caller [⟨⟨target, selector, chain⟩, allowed⟩])) := by
  rw [setPolicy, parsed]
  -- the selector is read before anything is opened
  change Does (openState context.settings >>= _) _
  refine does_openState fun _ => does_attempt rfl fun granted => ?_
  exact does_saveState granted.2 ((tells_count _).bind (tells_succeed _))

theorem does_transition (old new : Address) (roles : List Role) (together : Bool) :
    Does (transition context old new roles together false)
      (context.settings.amend
        (if together then .handOverTogether context.caller old new roles
          else .handOver context.caller old new roles)) := by
  -- a handover in one step has no gaps to report
  cases together with
  | true =>
    refine does_openState fun _ => ?_
    refine (tells_say _).bind_does ((tells_sayAll _).bind_does ?_)
    exact does_attempt rfl fun granted => does_saveState granted.2 (tells_succeed _)
  | false =>
    refine does_openState fun _ => ?_
    refine (tells_say _).bind_does ((tells_sayAll _).bind_does ((tells_sayAll _).bind_does ?_))
    exact does_attempt rfl fun granted => does_saveState granted.2 (tells_succeed _)

/-! ## Commands that leave the governance -/

theorem keepsDisk_openState (settings : Settings) : KeepsDisk (openState settings) :=
  keepsDisk_consult _ _

theorem keepsDisk_readBatch (path : String) : KeepsDisk (readBatch path) :=
  (keepsDisk_consult _ _).bind fun _ => keepsDisk_attempt _ _

theorem keepsDisk_encode (file : String) : KeepsDisk (encode file) :=
  (keepsDisk_readBatch file).bind fun _ => (keepsDisk_attempt _ _).bind fun _ =>
    ((tells_say _).bind (tells_inform _)).keepsDisk

theorem keepsDisk_decodeText (hex : String) (count : Option Nat) :
    KeepsDisk (decodeText hex count) := by
  refine (keepsDisk_attempt _ _).bind fun bytes => ?_
  dsimp only
  split
  · exact keepsDisk_done _
  · exact (tells_count _).keepsDisk.bind fun _ => keepsDisk_fail _

theorem keepsDisk_decode (hex : String) (count : Option Nat) : KeepsDisk (decode hex count) :=
  (keepsDisk_decodeText hex count).bind fun _ => ((tells_say _).bind (tells_say _)).keepsDisk

theorem keepsDisk_review (settings : Settings) (batch : Batch) (chain : ChainId)
    (mode : Option ForwardMode) : KeepsDisk (review settings batch chain mode) := by
  refine (keepsDisk_openState settings).bind fun governance => ?_
  cases mode with
  | none =>
    exact (tells_count _).keepsDisk.bind fun _ => (keepsDisk_attempt _ _).bind fun _ =>
      (tells_succeed _).keepsDisk
  | some mode =>
    exact (tells_count _).keepsDisk.bind fun _ => (keepsDisk_attempt _ _).bind fun _ =>
      ((tells_succeed _).bind ((tells_say _).bind (tells_say _))).keepsDisk

theorem keepsDisk_showMediator (settings : Settings) (chain : ChainId) :
    KeepsDisk (showMediator settings chain) := by
  refine (keepsDisk_openState settings).bind fun governance => ?_
  cases governance.mediatorOf chain with
  | none => exact (tells_warn _).keepsDisk
  | some mediator => exact (tells_say _).keepsDisk

theorem keepsDisk_listMediators (settings : Settings) : KeepsDisk (listMediators settings) := by
  refine (keepsDisk_openState settings).bind fun governance => ?_
  split
  · exact (tells_inform _).keepsDisk
  · exact (tells_say _).keepsDisk

theorem keepsDisk_checkPolicy (settings : Settings) (target : Address) (function : String)
    (chain : ChainId) : KeepsDisk (checkPolicy settings target function chain) := by
  refine (keepsDisk_attempt _ _).bind fun selector =>
    (keepsDisk_openState settings).bind fun governance => ?_
  cases governance.policies.lookup ⟨target, selector, chain⟩ with
  | none => exact (tells_deny _).keepsDisk
  | some allowed =>
    cases allowed with
    | false => exact (tells_deny _).keepsDisk
    | true => exact (tells_succeed _).keepsDisk

theorem keepsDisk_listPolicies (settings : Settings) : KeepsDisk (listPolicies settings) :=
  (keepsDisk_openState settings).bind fun _ => ((tells_say _).bind (tells_inform _)).keepsDisk

/-- A handover that is only told changes nothing. -/
theorem keepsDisk_dryRun (old new : Address) (roles : List Role) (together : Bool) :
    KeepsDisk (transition context old new roles together true) := by
  refine (keepsDisk_openState context.settings).bind fun _ => Tells.keepsDisk ?_
  refine (tells_say _).bind ((tells_sayAll _).bind ?_)
  cases together with
  | true => exact tells_inform _
  | false => exact (tells_sayAll _).bind (tells_inform _)

/-- Writing default settings leaves all other files. -/
theorem writesOnly_writeDefaults (path : String) (force : Bool) :
    WritesOnly path (writeDefaults path force) := by
  refine (keepsDisk_look _).bind_writesOnly fun present => ?_
  split
  · exact (keepsDisk_fail _).writesOnly path
  · refine WritesOnly.bind_keepsDisk ?_ fun _ => (tells_succeed _).keepsDisk
    rw [writeSettings]
    split
    · exact (keepsDisk_fail _).writesOnly path
    · exact writesOnly_write path _

end Console

/-! ## Orders -/

/-- A command with the caller on whose behalf it is carried out. -/
structure Order where
  /-- On whose behalf. -/
  caller : Address
  /-- What is to be done. -/
  command : Command
deriving DecidableEq

namespace Order

/-- The request that an order makes to the governance, if it makes one. -/
def request? (order : Order) : Option GovernanceRequest :=
  match order.command with
  | .setMediator chain mediator => some (.setMediator order.caller chain mediator)
  | .setPolicy target function chain allowed =>
    match Selector.parseAny function with
    | .error _ => none
    | .ok selector => some (.setPolicies order.caller [⟨⟨target, selector, chain⟩, allowed⟩])
  | .route entrypoint destination => some (.setRoute order.caller entrypoint destination)
  | .transition old new roles together dryRun =>
    if dryRun then none
    else if together then some (.handOverTogether order.caller old new roles)
    else some (.handOver order.caller old new roles)
  | _ => none

/-- Carry an order out. -/
def execute (order : Order) (settings : Settings) (settingsPath : String) : Action Unit :=
  Console.execute ⟨settings, order.caller, settingsPath⟩ order.command

variable (settings : Settings) (settingsPath : String) {order : Order}

/-- An order that makes a request fails or changes the files as the request to the saved governance
does. -/
theorem does_execute {request : GovernanceRequest} (h : order.request? = some request) :
    Does (order.execute settings settingsPath) (settings.amend request) := by
  obtain ⟨caller, command⟩ := order
  cases command with
  | setMediator chain mediator =>
    cases h
    exact Console.does_setMediator _ chain mediator
  | setPolicy target function chain allowed =>
    rw [request?] at h
    cases hparsed : Selector.parseAny function with
    | error error => simp [hparsed] at h
    | ok selector =>
      simp only [hparsed, Option.some.injEq] at h
      subst h
      exact Console.does_setPolicy ⟨settings, caller, settingsPath⟩ target hparsed chain allowed
  | route entrypoint destination =>
    cases h
    exact Console.does_setRoute _ entrypoint destination
  | transition old new roles together dryRun =>
    have hdoes := Console.does_transition ⟨settings, caller, settingsPath⟩ old new roles together
    cases dryRun with
    | true => cases h
    | false =>
      cases together with
      | true =>
        cases h
        exact hdoes
      | false =>
        cases h
        exact hdoes
  | _ => cases h

/-- An order that makes no request writes nothing but perhaps the settings. -/
theorem writesOnly_execute (h : order.request? = none) :
    WritesOnly settingsPath (order.execute settings settingsPath) := by
  obtain ⟨caller, command⟩ := order
  cases command with
  | encode file => exact (Console.keepsDisk_encode file).writesOnly _
  | decode hex count => exact (Console.keepsDisk_decode hex count).writesOnly _
  | selector signature =>
    exact ((keepsDisk_attempt _ _).bind fun _ => (tells_say _).keepsDisk).writesOnly _
  | review file chain mode =>
    exact ((Console.keepsDisk_readBatch file).bind fun batch =>
      Console.keepsDisk_review settings batch _ mode).writesOnly _
  | setMediator chain mediator => cases h
  | showMediator chain => exact (Console.keepsDisk_showMediator settings chain).writesOnly _
  | listMediators => exact (Console.keepsDisk_listMediators settings).writesOnly _
  | setPolicy target function chain allowed =>
    rw [request?] at h
    cases hparsed : Selector.parseAny function with
    | ok selector => simp [hparsed] at h
    | error error =>
      -- a text that is no selector fails before anything is opened
      change WritesOnly _ (Console.setPolicy _ target function chain allowed)
      rw [Console.setPolicy, hparsed]
      exact KeepsDisk.writesOnly (fun _ => rfl) _
  | checkPolicy target function chain =>
    exact (Console.keepsDisk_checkPolicy settings target function chain).writesOnly _
  | listPolicies => exact (Console.keepsDisk_listPolicies settings).writesOnly _
  | route entrypoint destination => cases h
  | transition old new roles together dryRun =>
    cases dryRun with
    | true => exact (Console.keepsDisk_dryRun _ old new roles together).writesOnly _
    | false => cases together <;> cases h
  | init force => exact Console.writesOnly_writeDefaults settingsPath force

end Order

end GovernanceRelay
