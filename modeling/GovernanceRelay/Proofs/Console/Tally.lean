import GovernanceRelay.Proofs.Console.Review

/-!
# What the counters of reviews count

A review at the console ends in one of four ways (`Console.Fate`): the review objects, or the batch
passes and is not to be forwarded, or the timelock takes it, or the timelock declines it. The
counters go by whether the command succeeds (`Console.ReviewCall.review_counters`), which tells only
two of them apart: a batch that passes counts as forwarded although no timelock has seen it, and a
batch that the timelock declines counts as rejected although the review has no objection.
`Console.counted_reviews` tells for a whole run what the counters hold and when they mean what their
names say.
-/

set_option autoImplicit false

namespace GovernanceRelay

open GovernanceRelay.Action

namespace Console

/-- What a review at the console is asked. -/
structure ReviewCall where
  /-- The batch. -/
  batch : Batch
  /-- The chain it is meant for. -/
  chain : ChainId
  /-- Whether the batch is to be forwarded, and how. -/
  mode : Option ForwardMode
deriving DecidableEq

/-- How a review at the console ends. -/
inductive Fate where
  /-- The review objects. -/
  | objected
  /-- The batch passes and is not to be forwarded. -/
  | passed
  /-- The timelock takes the batch. -/
  | accepted
  /-- The batch passes and the timelock declines it. -/
  | declined
deriving DecidableEq, Repr

/-- Whether the command succeeds. -/
def Fate.succeeds : Fate → Bool
  | .passed => true
  | .accepted => true
  | _ => false

namespace ReviewCall

variable (settings : Settings) (governance : Governance)

/-- How a review ends. -/
def fate (call : ReviewCall) : Fate :=
  match governance.review call.batch call.chain with
  | .error _ => .objected
  | .ok () =>
    match call.mode with
    | none => .passed
    | some mode =>
      match forward settings governance call.batch call.chain mode with
      | .ok _ => .accepted
      | .error _ => .declined

/-- When a review ends in a way. The timelock declines a batch for an instruction that does not fit
the wire. -/
def Ends (call : ReviewCall) : Fate → Prop
  | .objected => ∃ offence, governance.review call.batch call.chain = .error offence
  | .passed => call.mode = none ∧ governance.review call.batch call.chain = .ok ()
  | .accepted => ∃ mode id, call.mode = some mode ∧
      forward settings governance call.batch call.chain mode = .ok id
  | .declined => call.mode ≠ none ∧ governance.review call.batch call.chain = .ok () ∧
      ∃ instruction ∈ call.batch.instructions, instruction.fitsWire = false

variable {settings governance} {call : ReviewCall}

theorem fate_of_ends {fate : Fate} (ends : call.Ends settings governance fate) :
    call.fate settings governance = fate := by
  cases fate with
  | objected =>
    obtain ⟨offence, hreview⟩ := ends
    rw [ReviewCall.fate, hreview]
  | passed =>
    obtain ⟨hmode, hreview⟩ := ends
    rw [ReviewCall.fate, hreview, hmode]
  | accepted =>
    obtain ⟨mode, id, hmode, hforward⟩ := ends
    -- what is forwarded has passed the review
    have hreview := ((forward_eq_ok_iff mode id).mp hforward).1
    simp only [ReviewCall.fate, hreview, hmode, hforward]
  | declined =>
    obtain ⟨hmode, hreview, instruction, hmem, hfits⟩ := ends
    obtain ⟨mode, hmode⟩ := Option.ne_none_iff_exists'.mp hmode
    simp only [ReviewCall.fate, hreview, hmode]
    cases hforward : forward settings governance call.batch call.chain mode with
    | error error => rfl
    | ok id =>
      -- what is forwarded fits the wire
      have hall := ((exists_forward_iff settings mode).mp ⟨id, hforward⟩).2
      rw [hall instruction hmem] at hfits
      cases hfits

theorem ends_fate (call : ReviewCall) :
    call.Ends settings governance (call.fate settings governance) := by
  cases hreview : governance.review call.batch call.chain with
  | error offence =>
    have hends : call.Ends settings governance .objected := ⟨offence, hreview⟩
    rwa [fate_of_ends hends]
  | ok done =>
    cases hmode : call.mode with
    | none =>
      have hends : call.Ends settings governance .passed := ⟨hmode, hreview⟩
      rwa [fate_of_ends hends]
    | some mode =>
      by_cases hfits : ∀ instruction ∈ call.batch.instructions, instruction.fitsWire = true
      · obtain ⟨id, hforward⟩ := (exists_forward_iff settings mode).mpr ⟨hreview, hfits⟩
        have hends : call.Ends settings governance .accepted := ⟨mode, id, hmode, hforward⟩
        rwa [fate_of_ends hends]
      · -- the review has no objection, so only the wire format can be at fault
        have hends : call.Ends settings governance .declined := by
          refine ⟨by simp [hmode], hreview, ?_⟩
          simpa using hfits
        rwa [fate_of_ends hends]

/-- A review ends in exactly one way. -/
theorem fate_eq_iff (fate : Fate) :
    call.fate settings governance = fate ↔ call.Ends settings governance fate :=
  ⟨fun h => h ▸ ends_fate call, fate_of_ends⟩

/-! ## One review -/

theorem succeeds_of_not_forwarding (hmode : call.mode = none) :
    (call.fate settings governance).succeeds =
      (governance.review call.batch call.chain).isOk := by
  rw [fate, hmode]
  cases governance.review call.batch call.chain <;> rfl

theorem succeeds_of_forwarding {mode : ForwardMode} (hmode : call.mode = some mode) :
    (call.fate settings governance).succeeds =
      (forward settings governance call.batch call.chain mode).isOk := by
  simp only [fate, hmode]
  cases hforward : forward settings governance call.batch call.chain mode with
  | ok id =>
    have hreview := ((forward_eq_ok_iff mode id).mp hforward).1
    rw [hreview]
    rfl
  | error error =>
    -- the review may object or not, the command fails in any case
    cases governance.review call.batch call.chain <;> rfl

variable (settings) in
/-- The desk after a review. -/
def carryOut (desk : Desk) (call : ReviewCall) : Desk :=
  (review settings call.batch call.chain call.mode desk).2

variable {desk : Desk}

/-- A review counts whether the command succeeds. -/
theorem review_counters (opened : settings.openState desk.disk = .ok governance)
    (call : ReviewCall) :
    (carryOut settings desk call).counters =
      desk.counters.countReview (call.fate settings governance).succeeds := by
  rw [carryOut]
  cases hmode : call.mode with
  | none =>
    rw [review_none_apply opened, succeeds_of_not_forwarding hmode]
    cases governance.review call.batch call.chain <;> rfl
  | some mode =>
    rw [review_some_apply opened, succeeds_of_forwarding hmode]
    cases forward settings governance call.batch call.chain mode <;> rfl

/-! ## A run of reviews -/

variable (settings governance) in
/-- How many reviews end in a way. -/
def tally (calls : List ReviewCall) (fate : Fate) : Nat :=
  calls.countP fun call => call.fate settings governance = fate

theorem counters_run (opened : settings.openState desk.disk = .ok governance)
    (calls : List ReviewCall) :
    let tally := tally settings governance calls
    (calls.foldl (carryOut settings) desk).counters =
      { desk.counters with
        reviewed := desk.counters.reviewed + calls.length
        forwarded := desk.counters.forwarded + (tally .accepted + tally .passed)
        rejected := desk.counters.rejected + (tally .objected + tally .declined) } := by
  induction calls generalizing desk with
  | nil => rfl
  | cons call rest ih =>
    have hdisk : (carryOut settings desk call).disk = desk.disk :=
      keepsDisk_review settings call.batch call.chain call.mode desk
    -- the files are as they were, so the same governance is opened for the rest
    have hrest := @ih (carryOut settings desk call) (hdisk ▸ opened)
    dsimp only at hrest ⊢
    rw [List.foldl_cons, hrest, review_counters opened call]
    cases hfate : call.fate settings governance <;>
      simp [tally, hfate, Fate.succeeds, Counters.countReview] <;> omega

/-- Every review is in one tally. -/
theorem length_eq_tally (calls : List ReviewCall) :
    let tally := tally settings governance calls
    calls.length = tally .accepted + tally .passed + (tally .objected + tally .declined) := by
  induction calls with
  | nil => rfl
  | cons call rest ih =>
    dsimp only at ih ⊢
    rw [List.length_cons, ih]
    cases hfate : call.fate settings governance <;> simp [tally, hfate] <;> omega

theorem tally_eq_zero_iff (calls : List ReviewCall) (fate : Fate) :
    tally settings governance calls fate = 0 ↔
      ∀ call ∈ calls, ¬ call.Ends settings governance fate := by
  simp only [tally, List.countP_eq_zero, decide_eq_true_eq, fate_eq_iff]

end ReviewCall

/-- Let a governance be opened, and let batches be reviewed one after the other, for whatever chains
and forwarded or not. The counter of reviews holds their number. The counter of forwarded batches
holds the number of those that the timelock took and of those that passed without being forwarded,
and that of rejected ones the number of those that the review objected to and of those that the
timelock declined. So the one counts what the timelock took exactly if the review objects to every
batch that is not to be forwarded, and the other one counts the objections of the review exactly if
everything fits the wire that passes and is to be forwarded. -/
theorem counted_reviews {settings : Settings} {disk : Disk} {governance : Governance}
    (opened : settings.openState disk = .ok governance) (calls : List ReviewCall) :
    let counters := (calls.foldl (ReviewCall.carryOut settings) (Desk.ofDisk disk)).counters
    let tally := ReviewCall.tally settings governance calls
    counters = { Counters.zero with
      reviewed := calls.length
      forwarded := tally .accepted + tally .passed
      rejected := tally .objected + tally .declined } ∧
    counters.reviewed = counters.forwarded + counters.rejected ∧
    (∀ (call : ReviewCall) (fate : Fate),
      call.fate settings governance = fate ↔ call.Ends settings governance fate) ∧
    (counters.forwarded = tally .accepted ↔ ∀ call ∈ calls, call.mode = none →
      ∃ offence, governance.review call.batch call.chain = .error offence) ∧
    (counters.rejected = tally .objected ↔ ∀ call ∈ calls, call.mode ≠ none →
      governance.review call.batch call.chain = .ok () →
        ∀ instruction ∈ call.batch.instructions, instruction.fitsWire = true) := by
  intro counters tally
  have hcounters : counters = { Counters.zero with
      reviewed := calls.length
      forwarded := tally .accepted + tally .passed
      rejected := tally .objected + tally .declined } := by
    have start : settings.openState (Desk.ofDisk disk).disk = .ok governance := opened
    refine (ReviewCall.counters_run start calls).trans ?_
    simp [Desk.ofDisk, Counters.zero, tally]
  have hpassed : tally .passed = 0 ↔ _ := ReviewCall.tally_eq_zero_iff calls .passed
  have hdeclined : tally .declined = 0 ↔ _ := ReviewCall.tally_eq_zero_iff calls .declined
  refine ⟨hcounters, ?_, fun call fate => ReviewCall.fate_eq_iff fate, ?_, ?_⟩
  · rw [hcounters]
    exact ReviewCall.length_eq_tally calls
  · rw [hcounters, Nat.add_eq_left, hpassed]
    refine forall₂_congr fun call hmem => ?_
    rw [ReviewCall.Ends, not_and]
    refine imp_congr_right fun hmode => ?_
    cases governance.review call.batch call.chain <;> simp
  · rw [hcounters, Nat.add_eq_left, hdeclined]
    refine forall₂_congr fun call hmem => ?_
    simp [ReviewCall.Ends]

namespace Rehearsal

/-- The governance that begins so. -/
def governance : Governance :=
  (Governance.create settings.admin).after (.setPolicies settings.admin
    [⟨⟨FixedBytes.replicate 8, FixedBytes.replicate 0xde, 1⟩, true⟩])

/-- The allowed call with a value that does not fit the wire. -/
def heavy : Batch :=
  .single { Instruction.call (FixedBytes.replicate 8) (FixedBytes.replicate 0xde) [5] with
    value := BitVec.ofNat 128 (Nat.pow 2 96) }

/-- One review for each way to end. -/
def calls : List ReviewCall :=
  [⟨batch, 1, some .execute⟩, ⟨batch, 1, none⟩, ⟨batch, 2, some .schedule⟩,
    ⟨heavy, 1, some .execute⟩]

/-- One of the two batches that count as forwarded was taken by the timelock, and one of the two
that count as rejected was objected to. -/
theorem counted_reviews_each_way :
    let counters := (calls.foldl (ReviewCall.carryOut settings) (Desk.ofDisk Disk.empty)).counters
    settings.openState Disk.empty = .ok governance ∧
      counters = { Counters.zero with reviewed := 4, forwarded := 2, rejected := 2 } ∧
      counters.forwarded ≠ ReviewCall.tally settings governance calls .accepted ∧
      counters.rejected ≠ ReviewCall.tally settings governance calls .objected := by
  intro counters
  have opened : settings.openState Disk.empty = .ok governance := by rfl
  obtain ⟨hcounters, -, -, hforwarded, hrejected⟩ := counted_reviews opened calls
  have htally : ∀ fate, ReviewCall.tally settings governance calls fate = 1 := by
    intro fate
    cases fate <;> decide +kernel
  refine ⟨opened, ?_, fun h => ?_, fun h => ?_⟩
  · refine hcounters.trans ?_
    simp only [htally]
    rfl
  · -- the second batch passes and is not to be forwarded
    obtain ⟨offence, hoffence⟩ := hforwarded.mp h ⟨batch, 1, none⟩ (by decide +kernel) rfl
    cases hoffence
  · -- the last batch passes and does not fit the wire
    have hfits := hrejected.mp h ⟨heavy, 1, some .execute⟩ (by decide +kernel) (by simp) (by rfl)
      _ List.mem_cons_self
    exact absurd hfits (by decide +kernel)

/-- A batch that is only reviewed counts as forwarded, and a batch that the timelock declines counts
as rejected by the review, although the timelock takes nothing and the review has no objection. -/
theorem miscounted_reviews :
    let calls : List ReviewCall := [⟨batch, 1, none⟩, ⟨heavy, 1, some .schedule⟩]
    let counters := (calls.foldl (ReviewCall.carryOut settings) (Desk.ofDisk Disk.empty)).counters
    settings.openState Disk.empty = .ok governance ∧
      counters = { Counters.zero with reviewed := 2, forwarded := 1, rejected := 1 } ∧
      (∀ call ∈ calls, ∀ mode id, call.mode = some mode →
        forward settings governance call.batch call.chain mode ≠ .ok id) ∧
      ∀ call ∈ calls, governance.review call.batch call.chain = .ok () := by
  intro calls counters
  refine ⟨by rfl, by decide +kernel, fun call hmem mode id hmode hforward => ?_,
    fun call hmem => ?_⟩
  · have hfits := ((exists_forward_iff settings mode).mp ⟨id, hforward⟩).2
    simp only [calls, List.mem_cons, List.not_mem_nil, or_false] at hmem
    rcases hmem with rfl | rfl
    · cases hmode
    · exact absurd (hfits _ List.mem_cons_self) (by decide +kernel)
  · simp only [calls, List.mem_cons, List.not_mem_nil, or_false] at hmem
    rcases hmem with rfl | rfl
    · rfl
    · rfl

end Rehearsal

end Console

end GovernanceRelay
