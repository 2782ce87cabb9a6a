import GovernanceRelay.Proofs.Authority
import GovernanceRelay.Proofs.Console.Commands
import GovernanceRelay.Proofs.Forwarding.Effect

/-!
# Reviews at the console

A batch can be reviewed, scheduled or executed from the console. To be executed it is scheduled on a
timelock that is as good as new, the delay passes, and it is reviewed once more. By then it is just
ready, whatever the delay is, so executing gives what scheduling gives (`Console.forward_eq`): the
objection of the review, the fault of the wire format, or the identifier. What a review does at the
desk is told by `Console.review_none_apply` and `Console.review_some_apply`, and
`Console.review_modes_agree` compares the modes.
-/

set_option autoImplicit false

namespace GovernanceRelay

open GovernanceRelay.Action

namespace Console

variable {settings : Settings} {governance : Governance} {batch : Batch} {chain : ChainId}

/-! ## The timelock of a forwarding -/

/-- On a fresh timelock the operator may propose and execute. -/
theorem holds_freshTimelock (settings : Settings) {role : Role}
    (h : role = .proposer ∨ role = .executor) :
    (freshTimelock settings).roles.holds role settings.operator = true := by
  simp only [freshTimelock, Timelock.setupRole, Authority.holds_grant]
  rcases h with rfl | rfl
  · simp
  · simp

/-- Every batch with an identifier is scheduled on a fresh timelock, where nothing is known yet. -/
theorem schedule_freshTimelock {id : Digest} (identified : operationId batch = .ok id) :
    (freshTimelock settings).schedule settings.operator batch =
      .ok (id, (freshTimelock settings).enqueue id batch) := by
  refine (Timelock.schedule_eq_ok_iff _ _ _ _).mpr
    ⟨holds_freshTimelock settings (.inl rfl), id, identified, fun operation hfind => ?_, rfl⟩
  cases hfind

/-- What was scheduled last is ready when the delay has passed, also where the clock stops before
that. -/
theorem execute_after_delay {timelock : Timelock} {caller : Address} {id : Digest}
    (executor : timelock.roles.holds .executor caller = true)
    (identified : operationId batch = .ok id) :
    ∃ changed, ((timelock.enqueue id batch).advance timelock.minDelay).execute caller batch =
      .ok (id, changed) := by
  refine ⟨_, (Timelock.execute_eq_ok_iff _ _ _ _).mpr ⟨executor, id, identified,
    ⟨batch, later timelock.now timelock.minDelay, .pending⟩, ?_, rfl, ?_, rfl⟩⟩
  · exact (OrderedMap.find?_insert _ _ _ _).trans (if_pos rfl)
  · -- the clock was moved by the same delay as the moment of readiness
    exact UInt64.le_refl (later timelock.now timelock.minDelay)

/-! ## Forwarding -/

/-- Forwarding gives the objection of the review, or else the fault of the wire format, or else the
identifier of the batch, in both modes. -/
theorem forward_eq (settings : Settings) (governance : Governance) (batch : Batch)
    (chain : ChainId) (mode : ForwardMode) :
    forward settings governance batch chain mode =
      match governance.offence? batch chain with
      | some offence => .error (.offence offence)
      | none => (operationId batch).mapError .refused := by
  rw [forward, Governance.forward]
  cases hoffence : governance.offence? batch chain with
  | some offence => rfl
  | none =>
    cases hid : operationId batch with
    | error error =>
      have hrefused : (freshTimelock settings).schedule settings.operator batch =
          .error error := by
        rw [Timelock.schedule, Timelock.missing?, holds_freshTimelock settings (.inl rfl), hid]
        rfl
      simp only [hrefused]
      rfl
    | ok id =>
      simp only [schedule_freshTimelock hid]
      cases mode with
      | schedule => rfl
      | execute =>
        obtain ⟨changed, hexecute⟩ := execute_after_delay
          (holds_freshTimelock settings (.inr rfl)) hid
        have hdelay : ((freshTimelock settings).enqueue id batch).minDelay =
            (freshTimelock settings).minDelay := rfl
        simp only [Governance.forward, hoffence, hdelay, hexecute]
        rfl

theorem forward_eq_ok_iff (mode : ForwardMode) (id : Digest) :
    forward settings governance batch chain mode = .ok id ↔
      governance.review batch chain = .ok () ∧ operationId batch = .ok id := by
  rw [forward_eq, Governance.review]
  cases governance.offence? batch chain with
  | some offence => simp
  | none => simp [except_mapError_eq_ok_iff]

theorem forward_eq_error_iff (mode : ForwardMode) (error : ForwardError) :
    forward settings governance batch chain mode = .error error ↔
      (∃ offence, governance.review batch chain = .error offence ∧ error = .offence offence) ∨
        (governance.review batch chain = .ok () ∧
          ∃ fault, Wire.encode batch = .error fault ∧ error = .refused (.wire fault)) := by
  rw [forward_eq, Governance.review, operationId, operationPreimage]
  cases governance.offence? batch chain with
  | some offence => simp [eq_comm]
  | none => cases Wire.encode batch <;> simp [except_mapError_eq_error_iff]

/-- A batch is forwarded exactly if it passes the review and its instructions all fit the wire. -/
theorem exists_forward_iff (settings : Settings) (mode : ForwardMode) :
    (∃ id, forward settings governance batch chain mode = .ok id) ↔
      governance.review batch chain = .ok () ∧
        ∀ instruction ∈ batch.instructions, instruction.fitsWire = true := by
  simp only [forward_eq_ok_iff, exists_and_left, operationId_eq_ok_iff, ← Wire.exists_encode_iff]
  exact and_congr_right fun _ =>
    ⟨fun ⟨_, bytes, hbytes, _⟩ => ⟨bytes, hbytes⟩, fun ⟨bytes, hbytes⟩ => ⟨_, bytes, hbytes, rfl⟩⟩

/-! ## At the desk -/

variable {desk : Desk}

/-- A review without forwarding counts the verdict and fails with the objection, if there is one. -/
theorem review_none_apply (opened : settings.openState desk.disk = .ok governance) (batch : Batch)
    (chain : ChainId) :
    review settings batch chain none desk =
      let counted := { desk with
        counters := desk.counters.countReview (governance.review batch chain).isOk }
      match governance.review batch chain with
      | .error offence => (.error (.offence offence), counted)
      | .ok () => succeed ("All " ++ toString batch.size ++ " instructions allowed on chain "
          ++ toString chain.toNat) counted := by
  rw [review, bind_apply, openState, consult, opened]
  change (count (·.countReview (governance.review batch chain).isOk) >>= fun _ =>
    attempt .offence (governance.review batch chain) >>= fun _ => succeed _) desk = _
  cases governance.review batch chain <;> rfl

/-- A review with forwarding counts the result and fails if there is none, and else tells the mode,
the identifier and the batch. -/
theorem review_some_apply (opened : settings.openState desk.disk = .ok governance) (batch : Batch)
    (chain : ChainId) (mode : ForwardMode) :
    review settings batch chain (some mode) desk =
      let result := forward settings governance batch chain mode
      let counted := { desk with counters := desk.counters.countReview result.isOk }
      match result with
      | .error error => (.error (.forward error), counted)
      | .ok id =>
        (do succeed ("Batch forwarded (" ++ mode.toText ++ ")")
            say ("Operation: " ++ id.toText)
            say (batchTable batch).toText) counted := by
  rw [review, bind_apply, openState, consult, opened]
  change (count (·.countReview (forward settings governance batch chain mode).isOk) >>= fun _ =>
    attempt .forward (forward settings governance batch chain mode) >>= fun _ => _) desk = _
  cases forward settings governance batch chain mode <;> rfl

theorem review_none_eq_ok_iff (opened : settings.openState desk.disk = .ok governance) :
    (review settings batch chain none desk).1 = .ok () ↔
      governance.review batch chain = .ok () := by
  rw [review_none_apply opened]
  cases governance.review batch chain with
  | error offence => simp
  | ok done => exact iff_of_true rfl rfl

theorem review_some_eq_ok_iff (opened : settings.openState desk.disk = .ok governance)
    (mode : ForwardMode) :
    (review settings batch chain (some mode) desk).1 = .ok () ↔
      governance.review batch chain = .ok () ∧
        ∀ instruction ∈ batch.instructions, instruction.fitsWire = true := by
  rw [← exists_forward_iff settings mode, review_some_apply opened]
  cases forward settings governance batch chain mode with
  | error error => simp
  | ok id => exact iff_of_true rfl ⟨id, rfl⟩

theorem review_some_eq_error_iff (opened : settings.openState desk.disk = .ok governance)
    (mode : ForwardMode) (failure : Failure) :
    (review settings batch chain (some mode) desk).1 = .error failure ↔
      ∃ error, forward settings governance batch chain mode = .error error ∧
        failure = .forward error := by
  rw [review_some_apply opened]
  cases forward settings governance batch chain mode with
  | error error => simp [eq_comm]
  | ok id =>
    refine iff_of_false (fun h => ?_) (fun h => ?_)
    · cases h
    · obtain ⟨error, herror, -⟩ := h
      cases herror

/-- What is told of a batch that was forwarded. -/
def forwardReport (batch : Batch) (mode : ForwardMode) (id : Digest) : String :=
  "✓ " ++ ("Batch forwarded (" ++ mode.toText ++ ")") ++ "\n" ++ ("Operation: " ++ id.toText)
    ++ "\n" ++ (batchTable batch).toText ++ "\n"

theorem output_of_forward (opened : settings.openState desk.disk = .ok governance)
    {mode : ForwardMode} {id : Digest}
    (forwarded : forward settings governance batch chain mode = .ok id) :
    (review settings batch chain (some mode) desk).2.output =
      desk.output ++ forwardReport batch mode id := by
  rw [review_some_apply opened, forwarded, forwardReport]
  change desk.output ++ ("✓ " ++ ("Batch forwarded (" ++ mode.toText ++ ")")) ++ "\n"
    ++ ("Operation: " ++ id.toText) ++ "\n" ++ (batchTable batch).toText ++ "\n" = _
  simp only [String.append_assoc]

/-- Let a governance be opened, with whatever timelock, operator and delay in the settings. A review
without forwarding succeeds exactly if the batch passes. A review that schedules succeeds exactly if
it passes and all its instructions fit the wire, and a review that executes succeeds in the same
cases, in which both tell the identifier of the batch. If they fail, it is for the objection of the
review, or else for the instruction that does not fit the wire, and for nothing that a timelock
refuses otherwise. No review changes the governance. -/
theorem review_modes_agree {settings : Settings} {desk : Desk} {governance : Governance}
    (opened : settings.openState desk.disk = .ok governance) (batch : Batch) (chain : ChainId) :
    let fits := ∀ instruction ∈ batch.instructions, instruction.fitsWire = true
    ((review settings batch chain none desk).1 = .ok () ↔
      governance.review batch chain = .ok ()) ∧
    (∀ failure, (review settings batch chain none desk).1 = .error failure ↔
      ∃ offence, governance.review batch chain = .error offence ∧ failure = .offence offence) ∧
    ((review settings batch chain (some .schedule) desk).1 = .ok () ↔
      governance.review batch chain = .ok () ∧ fits) ∧
    ((review settings batch chain (some .execute) desk).1 = .ok () ↔
      (review settings batch chain (some .schedule) desk).1 = .ok ()) ∧
    forward settings governance batch chain .execute =
      forward settings governance batch chain .schedule ∧
    (∀ mode, (review settings batch chain (some mode) desk).1 = .ok () →
      ∃ id, operationId batch = .ok id ∧
        (review settings batch chain (some mode) desk).2.output =
          desk.output ++ forwardReport batch mode id) ∧
    (∀ mode failure, (review settings batch chain (some mode) desk).1 = .error failure →
      (∃ offence, governance.review batch chain = .error offence ∧
        failure = .forward (.offence offence)) ∨
      (governance.review batch chain = .ok () ∧ ∃ fault, Wire.encode batch = .error fault ∧
        failure = .forward (.refused (.wire fault)))) ∧
    ∀ mode, (review settings batch chain mode desk).2.disk = desk.disk ∧
      settings.openState (review settings batch chain mode desk).2.disk = .ok governance := by
  intro fits
  refine ⟨review_none_eq_ok_iff opened, fun failure => ?_, review_some_eq_ok_iff opened .schedule,
    ?_, ?_, fun mode hok => ?_, fun mode failure hfailed => ?_, fun mode => ?_⟩
  · rw [review_none_apply opened]
    cases governance.review batch chain with
    | error offence => simp [eq_comm]
    | ok done => exact iff_of_false (fun h => nomatch h) (fun ⟨_, h, _⟩ => nomatch h)
  · exact (review_some_eq_ok_iff opened .execute).trans (review_some_eq_ok_iff opened .schedule).symm
  · rw [forward_eq, forward_eq]
  · have hpassed := (review_some_eq_ok_iff opened mode).mp hok
    obtain ⟨id, hforward⟩ := (exists_forward_iff settings mode).mpr hpassed
    exact ⟨id, ((forward_eq_ok_iff mode id).mp hforward).2, output_of_forward opened hforward⟩
  · obtain ⟨error, herror, rfl⟩ := (review_some_eq_error_iff opened mode failure).mp hfailed
    rcases (forward_eq_error_iff mode error).mp herror with
      ⟨offence, hoffence, rfl⟩ | ⟨hreview, fault, hfault, rfl⟩
    · exact .inl ⟨offence, hoffence, rfl⟩
    · exact .inr ⟨hreview, fault, hfault, rfl⟩
  · have hdisk := keepsDisk_review settings batch chain mode desk
    exact ⟨hdisk, by rw [hdisk, opened]⟩

end Console

namespace Console.Rehearsal

/-- Settings with the longest delay there is, which allow one function of an account. -/
def settings : Settings :=
  { Settings.default with
    timelock := ⟨FixedBytes.replicate 0x71, 0xffffffffffffffff⟩
    policies := [⟨FixedBytes.replicate 8, "0xdededede", 1, true⟩] }

/-- A call of that function. -/
def batch : Batch :=
  .single (.call (FixedBytes.replicate 8) (FixedBytes.replicate 0xde) [5])

/-- The batch is executed although its delay is the longest there is, and nothing is saved. -/
theorem review_modes_agree_longest_delay :
    let desk := Desk.ofDisk Disk.empty
    (review settings batch 1 (some .execute) desk).1 = .ok () ∧
      (∃ id, operationId batch = .ok id ∧
        (review settings batch 1 (some .execute) desk).2.output =
          desk.output ++ forwardReport batch .execute id) ∧
      (review settings batch 1 (some .execute) desk).2.disk = desk.disk := by
  intro desk
  have opened : settings.openState desk.disk = .ok
      ((Governance.create settings.admin).after (.setPolicies settings.admin
        [⟨⟨FixedBytes.replicate 8, FixedBytes.replicate 0xde, 1⟩, true⟩])) := by rfl
  obtain ⟨-, -, hschedule, hexecute, -, htold, -, hkept⟩ := review_modes_agree opened batch 1
  have hok : (review settings batch 1 (some .execute) desk).1 = .ok () :=
    hexecute.mpr (hschedule.mpr ⟨by rfl, by decide +kernel⟩)
  exact ⟨hok, htold .execute hok, (hkept (some .execute)).1⟩

end Console.Rehearsal

end GovernanceRelay
