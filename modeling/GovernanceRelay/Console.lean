import GovernanceRelay.Console.Desk
import GovernanceRelay.Invocation
import GovernanceRelay.Json.Batch
import GovernanceRelay.Settings.Document
import GovernanceRelay.Text.Parts

/-!
# The console

What each command does. A command that changes the governance opens it, changes it on behalf of the
caller, saves it and only then tells that it is done; every other command leaves the files as they
are. A run loads the settings, applies what the invocation changes in them, checks them, opens the
log, carries out the command, and exports the counters if the command did not fail.
-/

set_option autoImplicit false

namespace GovernanceRelay

open GovernanceRelay.Action

namespace Console

/-! ## Tables -/

/-- The table of a batch. -/
def batchTable (batch : Batch) : Text.Table where
  header := ["#", "target", "value", "selector", "payload bytes"]
  rows := batch.instructions.zipIdx.map fun (instruction, index) =>
    [toString index, instruction.target.toText, instruction.value.toText,
      match instruction.selector? with
      | some selector => selector.toText
      | none => "-",
      toString instruction.payload.length]

/-- The table of the allow-list. -/
def policyTable (entries : List PolicyEntry) : Text.Table where
  header := ["target", "selector", "chain", "status"]
  rows := entries.map fun entry =>
    [entry.key.target.toText, entry.key.selector.toText, toString entry.key.chain.toNat,
      if entry.allowed then "allowed" else "denied"]

/-- The table of mediators. -/
def mediatorTable (entries : List (ChainId × Address)) : Text.Table where
  header := ["chain", "mediator"]
  rows := entries.map fun entry => [toString entry.1.toNat, entry.2.toText]

/-- The lines of the steps of a handover, counted from a number. -/
def stepLines (number : Nat) : List RoleStep → List String
  | [] => []
  | step :: rest =>
    let digits := toString number
    (String.ofList (List.replicate (2 - digits.length) ' ') ++ digits ++ ". " ++ step.toText)
      :: stepLines (number + 1) rest

/-! ## What commands share -/

/-- What a command knows besides its own words. -/
structure Context where
  /-- The settings. -/
  settings : Settings
  /-- On whose behalf the command acts. -/
  caller : Address
  /-- The file with the settings. -/
  settingsPath : String
deriving DecidableEq

/-- Open the governance. -/
def openState (settings : Settings) : Action Governance := consult .opening settings.openState

/-- Save the governance. -/
def saveState (settings : Settings) (governance : Governance) : Action Unit :=
  change .saving (settings.saveState governance)

/-- Read the batch in a file. -/
def readBatch (path : String) : Action Batch := do
  let document ← consult (.unreadableBatch path) (·.readText path)
  attempt (fun _ => .malformedBatch path) (Json.readBatch document)

/-! ## Commands about batches -/

/-- Write the batch in a file in the wire format. -/
def encode (file : String) : Action Unit := do
  let batch ← readBatch file
  let bytes ← attempt .unencodable (Wire.encode batch)
  say (Hex.marked bytes)
  inform (toString bytes.length ++ " bytes")

/-- The digits of a text that may have a mark in front, but no blanks. -/
def bareDigits (text : String) : List Char :=
  match text.toList with
  | '0' :: 'x' :: digits => digits
  | digits => digits

/-- Read a batch from hexadecimal text, of exactly some number of instructions if it is given. -/
def decodeText (hex : String) (count : Option Nat) : Action Batch := do
  let bytes ← attempt .hex (Hex.decodeChars (bareDigits hex))
  let result := match count with
    | some count => Wire.decodeExactly count bytes
    | none => Wire.decode bytes
  match result with
  | .ok batch => return batch
  | .error error =>
    Action.count Counters.countDecodeFailure
    fail (.undecodable error)

/-- Show the batch that hexadecimal text spells. -/
def decode (hex : String) (count : Option Nat) : Action Unit := do
  let batch ← decodeText hex count
  say (batchTable batch).toText
  say (Json.writeBatch .pretty batch)

/-- The timelock that an operator forwards to, as good as new. -/
def freshTimelock (settings : Settings) : Timelock :=
  ((Timelock.create settings.timelock.address settings.timelock.minDelay).setupRole .proposer
    settings.operator).setupRole .executor settings.operator

/-- Forward a batch to a fresh timelock. To be executed, a batch is scheduled, the delay passes, and
the batch is reviewed once more. -/
def forward (settings : Settings) (governance : Governance) (batch : Batch) (chain : ChainId)
    (mode : ForwardMode) : Except ForwardError Digest :=
  match governance.forward settings.operator (freshTimelock settings) batch chain .schedule with
  | .error error => .error error
  | .ok (id, timelock) =>
    match mode with
    | .schedule => .ok id
    | .execute =>
      (governance.forward settings.operator (timelock.advance timelock.minDelay) batch chain
        .execute).map Prod.fst

/-- Review a batch, forward it if that is asked for, and count what became of it. -/
def review (settings : Settings) (batch : Batch) (chain : ChainId) (mode : Option ForwardMode) :
    Action Unit := do
  let governance ← openState settings
  match mode with
  | none =>
    let verdict := governance.review batch chain
    count (·.countReview verdict.isOk)
    attempt .offence verdict
    succeed ("All " ++ toString batch.size ++ " instructions allowed on chain "
      ++ toString chain.toNat)
  | some mode =>
    let result := forward settings governance batch chain mode
    count (·.countReview result.isOk)
    let id ← attempt .forward result
    succeed ("Batch forwarded (" ++ mode.toText ++ ")")
    say ("Operation: " ++ id.toText)
    say (batchTable batch).toText

/-! ## Commands about the governance -/

/-- Give a chain its mediator. -/
def setMediator (context : Context) (chain : ChainId) (mediator : Address) : Action Unit := do
  let governance ← openState context.settings
  let (previous, governance) ←
    attempt .governance (governance.setMediator context.caller chain mediator)
  saveState context.settings governance
  count Counters.countMediator
  succeed ("Chain " ++ toString chain.toNat ++ " mediator set to " ++ mediator.toText)
  match previous with
  | none => return
  | some previous =>
    if previous = mediator then return
    else warn (previous.toText ++ " is no longer trusted")

/-- Tell the mediator of a chain. -/
def showMediator (settings : Settings) (chain : ChainId) : Action Unit := do
  let governance ← openState settings
  match governance.mediatorOf chain with
  | some mediator => say mediator.toText
  | none => warn ("No mediator registered for chain " ++ toString chain.toNat)

/-- List all mediators. -/
def listMediators (settings : Settings) : Action Unit := do
  let governance ← openState settings
  if governance.mediators.isEmpty then inform "No mediators registered"
  else say (mediatorTable governance.mediators.entries).toText

/-- Allow or forbid a call. -/
def setPolicy (context : Context) (target : Address) (function : String) (chain : ChainId)
    (allowed : Bool) : Action Unit := do
  let selector ← attempt .selector (Selector.parseAny function)
  let governance ← openState context.settings
  let (applied, governance) ← attempt .governance
    (governance.setPolicies context.caller [⟨⟨target, selector, chain⟩, allowed⟩])
  saveState context.settings governance
  count (·.countPolicies applied)
  succeed (selector.toText ++ " on " ++ target.toText ++ " "
    ++ (if allowed then "allowed" else "denied") ++ " for chain " ++ toString chain.toNat)

/-- Tell whether a call is allowed. -/
def checkPolicy (settings : Settings) (target : Address) (function : String) (chain : ChainId) :
    Action Unit := do
  let selector ← attempt .selector (Selector.parseAny function)
  let governance ← openState settings
  match governance.policies.lookup ⟨target, selector, chain⟩ with
  | some true => succeed "allowed"
  | some false => deny "denied"
  | none => deny "denied (never configured)"

/-- List all settings of the allow-list. -/
def listPolicies (settings : Settings) : Action Unit := do
  let governance ← openState settings
  say (policyTable governance.policies.entries).toText
  inform (toString governance.policies.allowedCount ++ " allowed, "
    ++ toString governance.policies.history.length ++ " changes recorded")

/-- Declare a bridge entrypoint. -/
def setRoute (context : Context) (entrypoint : Address) (destination : ChainId) : Action Unit := do
  let governance ← openState context.settings
  let governance ← attempt .governance
    (governance.setRoute context.caller entrypoint destination)
  saveState context.settings governance
  succeed ("Calls to " ++ entrypoint.toText ++ " now inspected for chain "
    ++ toString destination.toNat)

/-- Hand roles over, or only tell how, and which roles would be without a holder meanwhile. -/
def transition (context : Context) (old new : Address) (roles : List Role)
    (together dryRun : Bool) : Action Unit := do
  let governance ← openState context.settings
  let steps := Handover.plan old new roles
  say "Role transition"
  sayAll (stepLines 1 steps)
  unless together do
    sayAll ((Handover.gaps governance.roles steps).map fun gap => "⚠ " ++ gap.message)
  if dryRun then inform "Dry run, nothing applied"
  else
    let (_, governance) ← attempt .governance
      (if together then governance.handOverTogether context.caller old new roles
        else governance.handOver context.caller old new roles)
    saveState context.settings governance
    succeed ("Roles moved from " ++ old.toShortText ++ " to " ++ new.toShortText)

/-! ## Settings -/

/-- Read the settings in a file. -/
def readSettings (path : String) : Action Settings := do
  if mayTraverse path then fail (.settings .traversal)
  else
    let document ← consult (.unreadableSettings path) (·.readText path)
    match Settings.ofText? document with
    | some settings => return settings
    | none => fail (.malformedSettings path)

/-- Write settings to a file. -/
def writeSettings (settings : Settings) (path : String) : Action Unit := do
  if mayTraverse path then fail (.settings .traversal)
  else change (.unwritableSettings path) (·.write path (Text.toBytes settings.toText))

/-- Write default settings to a file, over another one only if that is asked for. -/
def writeDefaults (path : String) (force : Bool) : Action Unit := do
  if (← look (·.contains path)) && !force then fail (.settingsExist path)
  else
    writeSettings Settings.default path
    succeed ("Wrote default config to " ++ path)

/-- The settings in a file, or the default where there is none. -/
def loadSettings (path : String) : Action Settings := do
  if ← look (·.contains path) then readSettings path else return Settings.default

/-! ## Runs -/

/-- Carry out a command. -/
def execute (context : Context) : Command → Action Unit
  | .encode file => encode file
  | .decode hex count => decode hex count
  | .selector signature => do say (← attempt .selector (Selector.ofSignature signature)).toText
  | .review file chain mode => do
    let batch ← readBatch file
    review context.settings batch (chain.getD context.settings.homeChain) mode
  | .setMediator chain mediator => setMediator context chain mediator
  | .showMediator chain => showMediator context.settings chain
  | .listMediators => listMediators context.settings
  | .setPolicy target function chain allowed => setPolicy context target function chain allowed
  | .checkPolicy target function chain => checkPolicy context.settings target function chain
  | .listPolicies => listPolicies context.settings
  | .route entrypoint destination => setRoute context entrypoint destination
  | .transition old new roles together dryRun => transition context old new roles together dryRun
  | .init force => writeDefaults context.settingsPath force

/-- Check the filter of the log and open its file. -/
def openLog (logging : LoggingSettings) : Action Unit := do
  match LogFilter.check logging.level with
  | .error error => fail (.logFilter error)
  | .ok () =>
    match logging.file with
    | none => return
    | some path => change (.unwritableLog path) (·.touch path)

/-- Export the counters if the settings say so. -/
def exportCounters (metrics : MetricsSettings) : Action Unit := fun desk =>
  if metrics.enabled then
    match metrics.output with
    | none => say desk.counters.toText desk
    | some path =>
      change .unwritableCounters (·.write path (Text.toBytes desk.counters.toText)) desk
  else (.ok (), desk)

end Console

namespace Invocation

/-- The settings with what the invocation changes in them. -/
def override (invocation : Invocation) (settings : Settings) : Settings :=
  { settings with
    statePath := invocation.statePath.getD settings.statePath
    logging := { settings.logging with
      level := invocation.logLevel.getD settings.logging.level
      json := settings.logging.json || invocation.jsonLogs } }

/-- Whether the command works on existing settings, which have to be right. -/
def needsSettings (invocation : Invocation) : Bool :=
  match invocation.command with
  | .init _ => false
  | _ => true

/-- What the command knows. -/
def context (invocation : Invocation) (settings : Settings) : Console.Context :=
  ⟨settings, invocation.caller.getD settings.admin, invocation.settingsPath⟩

/-- The files that a command reads besides the settings and the governance. -/
def batchFiles (invocation : Invocation) : List String :=
  match invocation.command with
  | .encode file => [file]
  | .review file _ _ => [file]
  | _ => []

/-- The files that a run with some settings may read or write. -/
def files (invocation : Invocation) (settings : Settings) : List String :=
  [invocation.settingsPath, settings.statePath] ++ invocation.batchFiles
    ++ settings.logging.file.toList ++ settings.metrics.output.toList

/-- Carry out an invocation. -/
def run (invocation : Invocation) : Action Unit := do
  let loaded ← Console.loadSettings invocation.settingsPath
  let settings := invocation.override loaded
  if invocation.needsSettings then attempt .settings settings.validate
  Console.openLog settings.logging
  Console.execute (invocation.context settings) invocation.command
  Console.exportCounters settings.metrics

end Invocation

end GovernanceRelay
