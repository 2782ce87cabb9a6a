import GovernanceRelay.Proofs.Console.Counting
import GovernanceRelay.Proofs.Console.Review
import GovernanceRelay.Proofs.Disk
import GovernanceRelay.Proofs.Storage

/-!
# When the counters are exported

A run gets its settings, checks them and opens the log (`Invocation.prepare`), carries out its
command, and only then exports the counters (`Invocation.run_eq`). A command writes to no file but
those of the governance and of the settings, so the file for the counters is as it was until then.
A run whose command fails ends before that, and leaves the file as it was
(`Invocation.exported_run`): what is counted by commands that fail only is in no export.
-/

set_option autoImplicit false

namespace GovernanceRelay

open GovernanceRelay.Action

/-! ## What commands write -/

/-- A request to the saved governance changes no file but that of the governance. -/
theorem Settings.amend_disk (settings : Settings) (request : GovernanceRequest) (disk : Disk) :
    (settings.amend request disk).2 = disk ∨
      ∃ content, disk.write settings.statePath content = .ok (settings.amend request disk).2 := by
  rw [amend]
  cases settings.openState disk with
  | error error => exact .inl rfl
  | ok governance =>
    dsimp only
    rw [ask]
    cases governance.answer request with
    | error error => exact .inl rfl
    | ok done =>
      dsimp only
      rw [store]
      cases hsaved : settings.saveState done.2 disk with
      | error error => exact .inl rfl
      | ok after =>
        obtain ⟨bytes, -, hwrite⟩ := write_of_saveState hsaved
        exact .inr ⟨bytes, hwrite⟩

/-- An order changes no file but that of the governance and that of the settings. -/
theorem Order.spares_execute (order : Order) {settings : Settings} {settingsPath : String}
    {place : Location} {desk : Desk} (settingsApart : desk.disk.locate settingsPath ≠ .ok place)
    (stateApart : desk.disk.locate settings.statePath ≠ .ok place) :
    Disk.Spares place desk.disk (order.execute settings settingsPath desk).2.disk := by
  cases hrequest : order.request? with
  | none =>
    rcases writesOnly_execute settings settingsPath hrequest desk with hdisk | ⟨content, hwrite⟩
    · rw [hdisk]
      exact Disk.spares_refl place desk.disk
    · exact Disk.spares_write settingsApart hwrite
  | some request =>
    have hdisk := congrArg Prod.snd (does_execute settings settingsPath hrequest desk)
    rcases settings.amend_disk request desk.disk with hkept | ⟨content, hwrite⟩
    · rw [show (order.execute settings settingsPath desk).2.disk = desk.disk from hdisk.trans hkept]
      exact Disk.spares_refl place desk.disk
    · rw [← hdisk] at hwrite
      exact Disk.spares_write stateApart hwrite

/-! ## Before the command -/

namespace Console

theorem looks_loadSettings (path : String) : Looks (loadSettings path) := by
  refine (looks_look _).bind fun present => ?_
  split
  · rw [readSettings]
    split
    · exact looks_fail _
    · refine (looks_consult _ _).bind fun document => ?_
      split
      · exact looks_done _
      · exact looks_fail _
  · exact looks_done _

/-- Where the log is opened, nothing is counted and nothing but its file is created. -/
theorem openLog_eq_ok {logging : LoggingSettings} {desk ready : Desk}
    (opened : openLog logging desk = (.ok (), ready)) :
    ready.counters = desk.counters ∧
      (ready.disk = desk.disk ∨
        ∃ path, logging.file = some path ∧ desk.disk.touch path = .ok ready.disk) := by
  rw [openLog] at opened
  cases hcheck : LogFilter.check logging.level with
  | error error =>
    rw [hcheck] at opened
    cases opened
  | ok checked =>
    rw [hcheck] at opened
    cases hfile : logging.file with
    | none =>
      rw [hfile] at opened
      cases opened
      exact ⟨rfl, .inl rfl⟩
    | some path =>
      rw [hfile] at opened
      dsimp only [change] at opened
      cases htouch : desk.disk.touch path with
      | error error =>
        rw [htouch] at opened
        cases opened
      | ok disk =>
        rw [htouch] at opened
        cases opened
        exact ⟨rfl, .inr ⟨path, rfl, htouch⟩⟩

/-- Counters that are exported to a file that can be written to are what it holds then. -/
theorem exportCounters_apply {metrics : MetricsSettings} {desk : Desk} {path : String}
    {place : Location} (enabled : metrics.enabled = true) (output : metrics.output = some path)
    (writable : desk.disk.target path = .ok place) :
    exportCounters metrics desk = (.ok (), { desk with
      disk := desk.disk.place place (.file (Text.toBytes desk.counters.toText)) }) := by
  have hwrite := Disk.write_of_target (Text.toBytes desk.counters.toText) writable
  rw [exportCounters, if_pos enabled, output]
  simp only [change, hwrite]

/-! ## Commands that fail and count -/

/-- The batch that bytes stand for, of exactly some number of instructions if it is given. -/
def batchIn (count : Option Nat) (bytes : Bytes) : Except WireError Batch :=
  match count with
  | some count => Wire.decodeExactly count bytes
  | none => Wire.decode bytes

/-- Bytes that are no batch make the command fail. -/
theorem decode_of_undecodable {hex : String} {count : Option Nat} {bytes : Bytes}
    {error : WireError} (spelled : Hex.decodeChars (bareDigits hex) = .ok bytes)
    (undecodable : batchIn count bytes = .error error) (desk : Desk) :
    (decode hex count desk).1 = .error (.undecodable error) := by
  have htext : decodeText hex count desk =
      (.error (.undecodable error),
        { desk with counters := desk.counters.countDecodeFailure }) := by
    rw [decodeText, spelled]
    cases count with
    | none =>
      simp only [batchIn] at undecodable
      simp only [attempt, done, bind_apply, undecodable]
      rfl
    | some count =>
      simp only [batchIn] at undecodable
      simp only [attempt, done, bind_apply, undecodable]
      rfl
  rw [decode, bind_apply, htext]

/-- A batch that the review objects to makes the command fail. -/
theorem review_of_objection {settings : Settings} {desk : Desk} {governance : Governance}
    {batch : Batch} {chain : ChainId} {offence : Offence}
    (opened : settings.openState desk.disk = .ok governance)
    (objected : governance.review batch chain = .error offence) (mode : Option ForwardMode) :
    ∃ failure, (review settings batch chain mode desk).1 = .error failure ∧
      failure.counts = (·.countReview false) := by
  cases mode with
  | none =>
    refine ⟨.offence offence, ?_, rfl⟩
    rw [review_none_apply opened, objected]
  | some mode =>
    have hforward : forward settings governance batch chain mode = .error (.offence offence) :=
      (forward_eq_error_iff mode _).mpr (.inl ⟨offence, objected, rfl⟩)
    exact ⟨.forward (.offence offence),
      (review_some_eq_error_iff opened mode _).mpr ⟨_, hforward, rfl⟩, rfl⟩

theorem readBatch_apply {desk : Desk} {path document : String} {batch : Batch}
    (read : desk.disk.readText path = .ok document)
    (parsed : Json.readBatch document = .ok batch) : readBatch path desk = (.ok batch, desk) := by
  rw [readBatch, bind_apply, consult, read]
  simp only [attempt, done, parsed]

end Console

namespace Invocation

variable (invocation : Invocation)

/-- Check settings that the command works on. -/
def checkSettings (settings : Settings) : Action Unit :=
  if invocation.needsSettings then attempt .settings settings.validate else done ()

/-- Get the settings, check them and open the log. -/
def prepare : Action Settings := do
  let loaded ← Console.loadSettings invocation.settingsPath
  invocation.checkSettings (invocation.override loaded)
  Console.openLog (invocation.override loaded).logging
  return invocation.override loaded

/-- A run is made of what is done before the command, the command, and the export. -/
theorem run_eq :
    invocation.run = (do
      let settings ← invocation.prepare
      Console.execute (invocation.context settings) invocation.command
      Console.exportCounters settings.metrics) := by
  rw [run]
  simp only [prepare, checkSettings, bind_assoc, pure_bind]
  congr 1
  funext loaded
  -- a check that is not made does nothing
  cases invocation.needsSettings with
  | true => rfl
  | false => rfl

variable {invocation} {settings : Settings}

/-- Where all this succeeds, nothing is done at the desk but that the log is opened. -/
theorem prepare_eq_ok {desk later : Desk}
    (prepared : invocation.prepare desk = (.ok settings, later)) :
    Console.openLog settings.logging desk = (.ok (), later) := by
  obtain ⟨loaded, middle, hloaded, hrest⟩ := bind_eq_ok_iff.mp prepared
  obtain ⟨⟨⟩, checked, hchecked, hrest⟩ := bind_eq_ok_iff.mp hrest
  obtain ⟨⟨⟩, opened, hopened, hreturned⟩ := bind_eq_ok_iff.mp hrest
  cases hreturned
  -- until the log is opened, the desk is only looked at
  have hmiddle : middle = desk := by
    have hlooks := Console.looks_loadSettings invocation.settingsPath desk
    rw [hloaded] at hlooks
    exact hlooks
  have hdesk : checked = middle := by
    have hlooks : Looks (invocation.checkSettings (invocation.override loaded)) := by
      rw [checkSettings]
      split
      · exact looks_attempt _ _
      · exact looks_done _
    have hchange := hlooks middle
    rw [hchecked] at hchange
    exact hchange
  rwa [hdesk, hmiddle] at hopened

/-! ## Runs with an export -/

/-- The desk at which the command of a run begins. -/
def ready (invocation : Invocation) (disk : Disk) : Desk :=
  (invocation.prepare (Desk.ofDisk disk)).2

/-- What becomes of the command of a run. -/
def executed (invocation : Invocation) (settings : Settings) (disk : Disk) :
    Except Failure Unit × Desk :=
  Console.execute (invocation.context settings) invocation.command (invocation.ready disk)

/-- All is well until the command of a run, and its counters are to be exported to a file that can
be written to and that is no other file of the run. -/
structure Exports (invocation : Invocation) (settings : Settings) (disk : Disk) (path : String)
    (place : Location) : Prop where
  /-- There are settings, they are right, and the log is opened. -/
  prepared : (invocation.prepare (Desk.ofDisk disk)).1 = .ok settings
  /-- The counters are exported. -/
  enabled : settings.metrics.enabled = true
  /-- They are written to a file. -/
  output : settings.metrics.output = some path
  /-- The file can be written to. -/
  writable : disk.target path = .ok place
  /-- The settings are in another file. -/
  settingsApart : disk.locate invocation.settingsPath ≠ .ok place
  /-- The governance is in another file. -/
  stateApart : disk.locate settings.statePath ≠ .ok place
  /-- The log is in another file. -/
  logApart : ∀ log, settings.logging.file = some log → disk.locate log ≠ .ok place

namespace Exports

variable {disk : Disk} {path : String} {place : Location}

/-- When the command begins, nothing is counted and the file is as it was. -/
theorem ready_spares (exports : invocation.Exports settings disk path place) :
    (invocation.ready disk).counters = Counters.zero ∧
      Disk.Spares place disk (invocation.ready disk).disk := by
  have hprepared : invocation.prepare (Desk.ofDisk disk) = (.ok settings, invocation.ready disk) :=
    Prod.ext exports.prepared rfl
  obtain ⟨hcounters, hdisk⟩ := Console.openLog_eq_ok (prepare_eq_ok hprepared)
  refine ⟨hcounters, ?_⟩
  rcases hdisk with hkept | ⟨log, hlog, htouch⟩
  · rw [hkept]
    exact Disk.spares_refl place disk
  · exact Disk.spares_touch (exports.logApart log hlog) htouch

/-- When the command has ended, the file is still as it was. -/
theorem executed_spares (exports : invocation.Exports settings disk path place) :
    Disk.Spares place disk (invocation.executed settings disk).2.disk := by
  obtain ⟨-, hready⟩ := exports.ready_spares
  exact hready.trans (Order.spares_execute
    ⟨invocation.caller.getD settings.admin, invocation.command⟩
    (hready.apart exports.settingsApart) (hready.apart exports.stateApart))

theorem executed_counters (exports : invocation.Exports settings disk path place) :
    (invocation.executed settings disk).2.counters =
      match (invocation.executed settings disk).1 with
      | .ok _ => invocation.command.counts Counters.zero
      | .error failure => failure.counts Counters.zero := by
  have hcounts := Console.counts_execute (invocation.context settings) invocation.command
    (invocation.ready disk)
  rw [exports.ready_spares.1, ← executed] at hcounts
  cases hexecuted : (invocation.executed settings disk).1 with
  | ok done =>
    rw [hexecuted] at hcounts
    exact hcounts
  | error failure =>
    rw [hexecuted] at hcounts
    exact hcounts

/-- The counters are written exactly after a command that does not fail. -/
theorem run_eq (exports : invocation.Exports settings disk path place) :
    invocation.run (Desk.ofDisk disk) =
      match invocation.executed settings disk with
      | (.ok (), later) => (.ok (), { later with
          disk := later.disk.place place (.file (Text.toBytes later.counters.toText)) })
      | (.error failure, later) => (.error failure, later) := by
  have hprepared : invocation.prepare (Desk.ofDisk disk) = (.ok settings, invocation.ready disk) :=
    Prod.ext exports.prepared rfl
  -- the command makes no directory, so the file can be written to after it as well
  have hwritable := exports.executed_spares.target_eq exports.writable
  rw [Invocation.run_eq, bind_apply, hprepared]
  change (Console.execute _ _ >>= fun _ => Console.exportCounters _) (invocation.ready disk) = _
  rw [bind_apply, ← executed]
  cases hexecuted : invocation.executed settings disk with
  | mk result later =>
    rw [hexecuted] at hwritable
    cases result with
    | error failure => rfl
    | ok done => exact Console.exportCounters_apply exports.enabled exports.output hwritable

/-- After a command that succeeds, the file holds the counters. -/
theorem run_of_success (exports : invocation.Exports settings disk path place)
    (success : (invocation.executed settings disk).1 = .ok ()) :
    let finished := invocation.run (Desk.ofDisk disk)
    finished.1 = .ok () ∧
      finished.2.disk.read path = .ok (Text.toBytes finished.2.counters.toText) ∧
      finished.2.counters = invocation.command.counts Counters.zero := by
  have hcounters := exports.executed_counters
  have hwritable := exports.executed_spares.target_eq exports.writable
  dsimp only
  rw [exports.run_eq]
  cases hexecuted : invocation.executed settings disk with
  | mk result later =>
    rw [hexecuted] at success hcounters hwritable
    cases success
    refine ⟨rfl, ?_, hcounters⟩
    exact Disk.read_write_self (Disk.write_of_target _ hwritable)

/-- After a command that fails, the file is as it was. -/
theorem run_of_failure (exports : invocation.Exports settings disk path place) {failure : Failure}
    (failed : (invocation.executed settings disk).1 = .error failure) :
    let finished := invocation.run (Desk.ofDisk disk)
    finished.1 = .error failure ∧ finished.2.disk.read path = disk.read path ∧
      finished.2.counters = failure.counts Counters.zero := by
  have hcounters := exports.executed_counters
  have hread := exports.executed_spares.read_eq exports.writable
  dsimp only
  rw [exports.run_eq]
  cases hexecuted : invocation.executed settings disk with
  | mk result later =>
    rw [hexecuted] at failed hcounters hread
    cases failed
    exact ⟨rfl, hread, hcounters⟩

end Exports

theorem executed_decode {disk : Disk} {hex : String} {count : Option Nat} {bytes : Bytes}
    {error : WireError} (command : invocation.command = .decode hex count)
    (spelled : Hex.decodeChars (Console.bareDigits hex) = .ok bytes)
    (undecodable : Console.batchIn count bytes = .error error) :
    (invocation.executed settings disk).1 = .error (.undecodable error) := by
  rw [executed, command]
  exact Console.decode_of_undecodable spelled undecodable _

theorem executed_review {disk : Disk} {file document : String} {chain : Option ChainId}
    {mode : Option ForwardMode} {batch : Batch} {governance : Governance} {offence : Offence}
    (command : invocation.command = .review file chain mode)
    (read : (invocation.ready disk).disk.readText file = .ok document)
    (parsed : Json.readBatch document = .ok batch)
    (opened : settings.openState (invocation.ready disk).disk = .ok governance)
    (objected : governance.review batch (chain.getD settings.homeChain) = .error offence) :
    ∃ failure, (invocation.executed settings disk).1 = .error failure ∧
      failure.counts = (·.countReview false) := by
  obtain ⟨failure, hfailed, hcounts⟩ := Console.review_of_objection opened objected mode
  refine ⟨failure, ?_, hcounts⟩
  rw [executed, command]
  change (((Console.readBatch file) >>= fun batch => Console.review settings batch
    (chain.getD settings.homeChain) mode) (invocation.ready disk)).1 = _
  rw [bind_apply, Console.readBatch_apply read parsed]
  exact hfailed

/-- Let there be settings that are right, let the log be opened, and let the counters be exported to
a file that can be written to and that is no other file of the run. If the command succeeds, so does
the run, and the file holds the counters of the run, which are those of the command, with no batch
that is rejected and no byte string that is no batch. If the command fails, the run fails with it,
and the file is as it was before the run, whatever the command has counted. So the file holds the
counters of the run exactly if the command succeeds, or if it held the same before. Bytes that are
no batch are counted, and so is a batch that the review objects to, but the file is as it was. -/
theorem exported_run {invocation : Invocation} {settings : Settings} {disk : Disk} {path : String}
    {place : Location} (exports : invocation.Exports settings disk path place) :
    let outcome := (invocation.executed settings disk).1
    let finished := (invocation.run (Desk.ofDisk disk)).2
    let exported := .ok (Text.toBytes finished.counters.toText)
    (invocation.run (Desk.ofDisk disk)).1 = outcome ∧
    (outcome = .ok () →
      finished.disk.read path = exported ∧
      finished.counters = invocation.command.counts Counters.zero ∧
      finished.counters.rejected = 0 ∧ finished.counters.decodeFailures = 0) ∧
    (∀ failure, outcome = .error failure →
      finished.disk.read path = disk.read path ∧
      finished.counters = failure.counts Counters.zero) ∧
    (finished.disk.read path = exported ↔ outcome = .ok () ∨ disk.read path = exported) ∧
    (∀ hex count bytes error, invocation.command = .decode hex count →
      Hex.decodeChars (Console.bareDigits hex) = .ok bytes →
      Console.batchIn count bytes = .error error →
      finished.counters = { Counters.zero with decodeFailures := 1 } ∧
      finished.disk.read path = disk.read path) ∧
    (∀ file chain mode document batch governance offence,
      invocation.command = .review file chain mode →
      (invocation.ready disk).disk.readText file = .ok document →
      Json.readBatch document = .ok batch →
      settings.openState (invocation.ready disk).disk = .ok governance →
      governance.review batch (chain.getD settings.homeChain) = .error offence →
      finished.counters = { Counters.zero with reviewed := 1, rejected := 1 } ∧
      finished.disk.read path = disk.read path) := by
  intro outcome finished exported
  have hdone (success : outcome = .ok ()) := exports.run_of_success success
  have hfailed {failure : Failure} (failed : outcome = .error failure) :=
    exports.run_of_failure failed
  refine ⟨?_, fun success => ?_, fun failure failed => (hfailed failed).2, ⟨fun h => ?_, ?_⟩,
    fun hex count bytes error hcommand hspelled hundecodable => ?_,
    fun file chain mode document batch governance offence hcommand hread hparsed hopened
      hobjected => ?_⟩
  · cases houtcome : outcome with
    | ok done => exact (hdone houtcome).1
    | error failure => exact (hfailed houtcome).1
  · obtain ⟨-, hread, hcounters⟩ := hdone success
    refine ⟨hread, hcounters, ?_, ?_⟩
    · exact hcounters ▸ (invocation.command.counts_zero).1
    · exact hcounters ▸ (invocation.command.counts_zero).2
  · cases houtcome : outcome with
    | ok done => exact .inl rfl
    | error failure =>
      -- the file was not written, so it held the same before
      exact .inr ((hfailed houtcome).2.1.symm.trans h)
  · rintro (success | hsame)
    · exact (hdone success).2.1
    · cases houtcome : outcome with
      | ok done => exact (hdone houtcome).2.1
      | error failure => exact (hfailed houtcome).2.1.trans hsame
  · obtain ⟨-, hread, hcounters⟩ := hfailed (executed_decode hcommand hspelled hundecodable)
    exact ⟨hcounters, hread⟩
  · obtain ⟨failure, hfailure, hcounts⟩ :=
      executed_review hcommand hread hparsed hopened hobjected
    obtain ⟨-, hkept, hcounters⟩ := hfailed hfailure
    rw [hcounts] at hcounters
    exact ⟨hcounters, hkept⟩

end Invocation

namespace Invocation.Rehearsal

/-- A disk with settings by which the counters are exported to a file. -/
def disk : Disk :=
  Disk.empty.withFile "relaygate.toml"
    (Text.toBytes "[metrics]\nenabled = true\noutput = \"m.prom\"\n")

/-- What these settings are. -/
def settings : Settings := { Settings.default with metrics := ⟨true, some "m.prom"⟩ }

/-- A command that is given there. -/
def invocation (command : Command) : Invocation :=
  ⟨"relaygate.toml", none, none, none, false, command⟩

theorem prepare_eq (command : Command) :
    (invocation command).prepare (Desk.ofDisk disk) = (.ok settings, Desk.ofDisk disk) := by
  have hloaded : Console.loadSettings "relaygate.toml" (Desk.ofDisk disk) =
      (.ok settings, Desk.ofDisk disk) := by rfl
  have hvalid : settings.validate = .ok () := by rfl
  have hopened : Console.openLog settings.logging (Desk.ofDisk disk) =
      (.ok (), Desk.ofDisk disk) := by rfl
  have hchecked : (invocation command).checkSettings settings (Desk.ofDisk disk) =
      (.ok (), Desk.ofDisk disk) := by
    rw [checkSettings, hvalid]
    split
    · rfl
    · rfl
  have hpath : (invocation command).settingsPath = "relaygate.toml" := rfl
  have hoverride : (invocation command).override settings = settings := rfl
  simp only [prepare, bind_apply, hpath, hloaded, hoverride, hchecked, hopened, pure_apply]

theorem exports_to_file (command : Command) :
    (invocation command).Exports settings disk "m.prom" ["m.prom"] where
  prepared := congrArg Prod.fst (prepare_eq command)
  enabled := rfl
  output := rfl
  writable := by rfl
  settingsApart := by
    have hlocate : disk.locate "relaygate.toml" = .ok ["relaygate.toml"] := by rfl
    rw [show (invocation command).settingsPath = "relaygate.toml" from rfl, hlocate]
    simp
  stateApart := by
    have hlocate : disk.locate settings.statePath = .ok ["relaygate-state.bin"] := by rfl
    rw [hlocate]
    simp
  logApart := fun log h => by cases h

/-- A mediator is set, which is in the export. -/
theorem exported_run_of_mediator :
    let finished := ((invocation (.setMediator 5 (FixedBytes.replicate 7))).run
      (Desk.ofDisk disk)).2
    finished.counters = { Counters.zero with mediatorUpdates := 1 } ∧
      finished.disk.read "m.prom" = .ok (Text.toBytes finished.counters.toText) := by
  intro finished
  have exports := exports_to_file (.setMediator 5 (FixedBytes.replicate 7))
  obtain ⟨-, hsuccess, -⟩ := exported_run exports
  obtain ⟨hread, hcounters, -⟩ := hsuccess (by rfl)
  exact ⟨hcounters, hread⟩

/-- Two bytes are no batch, which is counted, but although the counters are to be exported there is
no file with them after the run. -/
theorem unexported_decode_failure :
    let run := (invocation (.decode "0x0102" none)).run (Desk.ofDisk disk)
    (invocation (.decode "0x0102" none)).Exports settings disk "m.prom" ["m.prom"] ∧
      run.1 = .error (.undecodable (.truncated 0 36 2)) ∧
      run.2.counters = { Counters.zero with decodeFailures := 1 } ∧
      run.2.disk.read "m.prom" = .error .missing := by
  intro run
  have exports := exports_to_file (.decode "0x0102" none)
  have spelled : Hex.decodeChars (Console.bareDigits "0x0102") = .ok [1, 2] := by rfl
  have hexecuted : ((invocation (.decode "0x0102" none)).executed settings disk).1 =
      .error (.undecodable (.truncated 0 36 2)) := executed_decode rfl spelled (by rfl)
  obtain ⟨hfailed, hread, hcounters⟩ := exports.run_of_failure hexecuted
  exact ⟨exports, hfailed, hcounters, hread.trans (by rfl)⟩

end Invocation.Rehearsal

end GovernanceRelay
