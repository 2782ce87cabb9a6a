import GovernanceRelay.Proofs.FirstFault
import GovernanceRelay.Review

/-!
# What a review decides

A batch passes exactly if each of its instructions is approved: the call is permitted on the chain it
is meant for, and where its target is a bridge entrypoint the payload behind the selector is read as
a batch whose calls are all permitted on the chain behind the bridge (`Governance.Approves`).
Otherwise the review reports the objection to the first instruction that is not approved
(`Governance.Objection`), which names the first check that fails there, with every index, length,
chain, target and selector (`Governance.review_sound_complete`).
-/

set_option autoImplicit false

namespace GovernanceRelay

/-- A payload too short for a selector names no function. -/
theorem Instruction.selector?_eq_none_iff (call : Instruction) :
    call.selector? = none ↔ call.payload.length < 4 := by
  rw [Instruction.selector?, Selector.ofPayload?, FixedBytes.ofBytes?]
  split
  · rename_i h
    simp only [List.length_take] at h
    simp; omega
  · rename_i h
    simp only [List.length_take] at h
    simp; omega

/-- The function called is the selector in front of the payload. -/
theorem Instruction.selector?_eq_some_iff (call : Instruction) (selector : Selector) :
    call.selector? = some selector ↔ ∃ arguments, call.payload = selector.bytes ++ arguments := by
  constructor
  · intro h
    have htake : selector.bytes = call.payload.take 4 := FixedBytes.bytes_of_ofBytes? h
    exact ⟨call.payload.drop 4, by rw [htake, List.take_append_drop]⟩
  · rintro ⟨arguments, h⟩
    rw [Instruction.selector?, Selector.ofPayload?, h, List.take_left' selector.length_bytes,
      FixedBytes.ofBytes?_bytes]

theorem AllowList.allows_iff (list : AllowList) (key : CallKey) :
    list.allows key = true ↔ list.lookup key = some true := by
  rw [AllowList.allows]
  cases list.lookup key <;> simp

/-- A call is permitted on a chain if its payload begins with a selector and the call of that
function on that chain is set to be allowed. -/
def AllowList.Permits (list : AllowList) (chain : ChainId) (call : Instruction) : Prop :=
  ∃ selector arguments, call.payload = selector.bytes ++ arguments ∧
    list.lookup ⟨call.target, selector, chain⟩ = some true

theorem AllowList.permits_iff (list : AllowList) (chain : ChainId) (call : Instruction) :
    list.Permits chain call ↔
      ∃ selector, call.selector? = some selector ∧
        list.allows ⟨call.target, selector, chain⟩ = true := by
  constructor
  · rintro ⟨selector, arguments, hpayload, hlookup⟩
    exact ⟨selector, (call.selector?_eq_some_iff selector).mpr ⟨arguments, hpayload⟩,
      (list.allows_iff _).mpr hlookup⟩
  · rintro ⟨selector, hselector, hallows⟩
    obtain ⟨arguments, hpayload⟩ := (call.selector?_eq_some_iff selector).mp hselector
    exact ⟨selector, arguments, hpayload, (list.allows_iff _).mp hallows⟩

namespace Governance

/-- An instruction is approved for a chain if it is permitted there and what it carries to another
chain, if its target is a bridge entrypoint, is a batch of calls permitted on that chain. -/
structure Approves (governance : Governance) (chain : ChainId) (instruction : Instruction) :
    Prop where
  /-- The call itself is permitted. -/
  permitted : governance.policies.Permits chain instruction
  /-- The calls that it carries are permitted. -/
  carried : ∀ destination, governance.routeOf instruction.target = some destination →
    ∃ inner, Wire.decode (instruction.payload.drop 4) = .ok inner ∧
      ∀ call ∈ inner.instructions, governance.policies.Permits destination call

/-- The objection to the instruction at an index is the first check that fails there: first those of
the call itself, then whether a carried batch can be read, then those of the carried calls in
order. -/
inductive Objection (governance : Governance) (chain : ChainId) (index : Nat)
    (instruction : Instruction) : Offence → Prop
  | shortPayload : instruction.payload.length < 4 →
      Objection governance chain index instruction
        (.shortPayload index instruction.payload.length)
  | forbidden {selector : Selector} {arguments : Bytes} :
      instruction.payload = selector.bytes ++ arguments →
      governance.policies.lookup ⟨instruction.target, selector, chain⟩ ≠ some true →
      Objection governance chain index instruction (.forbidden index instruction.target selector)
  | undecodable {destination : ChainId} {error : WireError} :
      governance.policies.Permits chain instruction →
      governance.routeOf instruction.target = some destination →
      Wire.decode (instruction.payload.drop 4) = .error error →
      Objection governance chain index instruction (.undecodable index error)
  | shortInnerPayload {destination : ChainId} {inner : Batch} {before after : List Instruction}
      {call : Instruction} :
      governance.policies.Permits chain instruction →
      governance.routeOf instruction.target = some destination →
      Wire.decode (instruction.payload.drop 4) = .ok inner →
      inner.instructions = before ++ call :: after →
      (∀ earlier ∈ before, governance.policies.Permits destination earlier) →
      call.payload.length < 4 →
      Objection governance chain index instruction
        (.shortInnerPayload index before.length call.payload.length)
  | forbiddenInner {destination : ChainId} {inner : Batch} {before after : List Instruction}
      {call : Instruction} {selector : Selector} {arguments : Bytes} :
      governance.policies.Permits chain instruction →
      governance.routeOf instruction.target = some destination →
      Wire.decode (instruction.payload.drop 4) = .ok inner →
      inner.instructions = before ++ call :: after →
      (∀ earlier ∈ before, governance.policies.Permits destination earlier) →
      call.payload = selector.bytes ++ arguments →
      governance.policies.lookup ⟨call.target, selector, destination⟩ ≠ some true →
      Objection governance chain index instruction
        (.forbiddenInner index before.length destination call.target selector)

end Governance

namespace Review

/-! ## One call -/

/-- The two checks that every call undergoes, on its own chain or on another. -/
def callFault (policies : AllowList) (chain : ChainId) (short : Nat → Offence)
    (forbidden : Address → Selector → Offence) (call : Instruction) : Option Offence :=
  match call.selector? with
  | none => some (short call.payload.length)
  | some selector =>
    if policies.allows ⟨call.target, selector, chain⟩ then none
    else some (forbidden call.target selector)

theorem callFault_eq_none_iff (policies : AllowList) (chain : ChainId) (short : Nat → Offence)
    (forbidden : Address → Selector → Offence) (call : Instruction) :
    callFault policies chain short forbidden call = none ↔ policies.Permits chain call := by
  rw [callFault, AllowList.permits_iff]
  cases call.selector? <;> simp

theorem callFault_eq_some_iff (policies : AllowList) (chain : ChainId) (short : Nat → Offence)
    (forbidden : Address → Selector → Offence) (call : Instruction) (offence : Offence) :
    callFault policies chain short forbidden call = some offence ↔
      (call.payload.length < 4 ∧ offence = short call.payload.length) ∨
        ∃ selector, (∃ arguments, call.payload = selector.bytes ++ arguments) ∧
          policies.lookup ⟨call.target, selector, chain⟩ ≠ some true ∧
          offence = forbidden call.target selector := by
  simp only [callFault, ← call.selector?_eq_none_iff, ← call.selector?_eq_some_iff, ne_eq,
    ← AllowList.allows_iff]
  cases call.selector? with
  | none =>
    simp only [true_and, reduceCtorEq, false_and, exists_false, or_false, Option.some.injEq]
    exact eq_comm
  | some selector =>
    simp only [reduceCtorEq, false_and, false_or, Option.some.injEq, exists_eq_left']
    by_cases h : policies.allows ⟨call.target, selector, chain⟩ = true
    · simp [h]
    · simp only [h, Bool.false_eq_true, if_false, not_false_eq_true, true_and, Option.some.injEq]
      exact eq_comm

/-! ## The calls that an instruction carries -/

/-- The check of the carried call at an inner index. -/
def innerFault (policies : AllowList) (chain : ChainId) (index inner : Nat) (call : Instruction) :
    Option Offence :=
  callFault policies chain (.shortInnerPayload index inner) (.forbiddenInner index inner chain) call

theorem innerFault_eq_none_iff (policies : AllowList) (chain : ChainId) (index inner : Nat)
    (call : Instruction) :
    innerFault policies chain index inner call = none ↔ policies.Permits chain call :=
  callFault_eq_none_iff policies chain _ _ call

theorem innerFrom_eq_firstFault (policies : AllowList) (chain : ChainId) (index inner : Nat)
    (calls : List Instruction) :
    innerFrom policies chain index inner calls =
      firstFault (innerFault policies chain index) inner calls := by
  induction calls generalizing inner with
  | nil => rfl
  | cons call rest ih =>
    rw [innerFrom, firstFault_cons, innerFault, callFault, ih]
    cases call.selector? with
    | none => rfl
    | some selector =>
      dsimp only
      split <;> rfl

theorem carried_eq_none_iff (policies : AllowList) (chain : ChainId) (index : Nat)
    (payload : Bytes) :
    carried policies chain index payload = none ↔
      ∃ inner, Wire.decode (payload.drop 4) = .ok inner ∧
        ∀ call ∈ inner.instructions, policies.Permits chain call := by
  rw [carried]
  cases Wire.decode (payload.drop 4) with
  | error error => simp
  | ok inner =>
    simp only [innerFrom_eq_firstFault, Except.ok.injEq, exists_eq_left']
    exact firstFault_eq_none_iff (innerFault_eq_none_iff policies chain index) 0 inner.instructions

theorem carried_eq_some_iff (policies : AllowList) (chain : ChainId) (index : Nat)
    (payload : Bytes) (offence : Offence) :
    carried policies chain index payload = some offence ↔
      (∃ error, Wire.decode (payload.drop 4) = .error error ∧ offence = .undecodable index error) ∨
        ∃ inner before call after, Wire.decode (payload.drop 4) = .ok inner ∧
          inner.instructions = before ++ call :: after ∧
          (∀ earlier ∈ before, policies.Permits chain earlier) ∧
          innerFault policies chain index before.length call = some offence := by
  rw [carried]
  cases Wire.decode (payload.drop 4) with
  | error error => simp [eq_comm]
  | ok inner =>
    simp only [innerFrom_eq_firstFault, Except.ok.injEq, reduceCtorEq, false_and, exists_false,
      false_or]
    rw [firstFault_eq_some_iff (innerFault_eq_none_iff policies chain index)]
    simp

/-! ## One instruction -/

/-- The checks of an instruction are those of the call itself and then those of what it carries. -/
theorem single_eq (governance : Governance) (chain : ChainId) (index : Nat)
    (instruction : Instruction) :
    single governance chain index instruction =
      match callFault governance.policies chain (.shortPayload index) (.forbidden index)
        instruction with
      | some offence => some offence
      | none =>
        match governance.routeOf instruction.target with
        | none => none
        | some destination =>
          carried governance.policies destination index instruction.payload := by
  rw [single, callFault]
  cases instruction.selector? with
  | none => rfl
  | some selector =>
    dsimp only
    split <;> rfl

/-- There is no objection exactly to the approved instructions. -/
theorem single_eq_none_iff (governance : Governance) (chain : ChainId) (index : Nat)
    (instruction : Instruction) :
    single governance chain index instruction = none ↔ governance.Approves chain instruction := by
  have hcall := callFault_eq_none_iff governance.policies chain (.shortPayload index)
    (.forbidden index) instruction
  rw [single_eq]
  cases hfault : callFault governance.policies chain (.shortPayload index) (.forbidden index)
      instruction with
  | some offence =>
    -- the call itself is at fault, so the instruction is not approved whatever it carries
    rw [hfault] at hcall
    simp only [reduceCtorEq, false_iff] at hcall ⊢
    exact fun happroved => hcall happroved.permitted
  | none =>
    have hpermitted := hcall.mp hfault
    cases hroute : governance.routeOf instruction.target with
    | none =>
      simp only [true_iff]
      exact ⟨hpermitted, fun destination h => by rw [hroute] at h; cases h⟩
    | some destination =>
      simp only [carried_eq_none_iff]
      constructor
      · intro h
        -- an entrypoint has one route
        refine ⟨hpermitted, fun other hother => ?_⟩
        rw [hroute] at hother
        cases hother
        exact h
      · intro happroved
        exact happroved.carried destination hroute

/-- What the checks of an instruction report is an objection to it. -/
theorem objection_of_single {governance : Governance} {chain : ChainId} {index : Nat}
    {instruction : Instruction} {offence : Offence}
    (h : single governance chain index instruction = some offence) :
    governance.Objection chain index instruction offence := by
  rw [single_eq] at h
  cases hfault : callFault governance.policies chain (.shortPayload index) (.forbidden index)
      instruction with
  | some found =>
    -- the call itself is at fault
    simp only [hfault, Option.some.injEq] at h
    subst h
    rcases (callFault_eq_some_iff _ _ _ _ _ _).mp hfault with
      ⟨hshort, rfl⟩ | ⟨selector, ⟨arguments, hpayload⟩, hlookup, rfl⟩
    · exact .shortPayload hshort
    · exact .forbidden hpayload hlookup
  | none =>
    have hpermitted := (callFault_eq_none_iff _ _ _ _ _).mp hfault
    cases hroute : governance.routeOf instruction.target with
    | none => simp [hfault, hroute] at h
    | some destination =>
      -- the call passes, so what it carries is at fault
      simp only [hfault, hroute] at h
      rcases (carried_eq_some_iff _ _ _ _ _).mp h with
        ⟨error, hdecode, rfl⟩ | ⟨inner, before, call, after, hdecode, hsplit, hbefore, hinner⟩
      · exact .undecodable hpermitted hroute hdecode
      · rcases (callFault_eq_some_iff _ _ _ _ _ _).mp hinner with
          ⟨hshort, rfl⟩ | ⟨selector, ⟨arguments, hpayload⟩, hlookup, rfl⟩
        · exact .shortInnerPayload hpermitted hroute hdecode hsplit hbefore hshort
        · exact .forbiddenInner hpermitted hroute hdecode hsplit hbefore hpayload hlookup

/-- Every objection to an instruction is reported by its checks. -/
theorem single_of_objection {governance : Governance} {chain : ChainId} {index : Nat}
    {instruction : Instruction} {offence : Offence}
    (h : governance.Objection chain index instruction offence) :
    single governance chain index instruction = some offence := by
  rw [single_eq]
  cases h with
  | shortPayload hshort =>
    rw [(callFault_eq_some_iff _ _ _ _ _ _).mpr (.inl ⟨hshort, rfl⟩)]
  | forbidden hpayload hlookup =>
    rw [(callFault_eq_some_iff _ _ _ _ _ _).mpr (.inr ⟨_, ⟨_, hpayload⟩, hlookup, rfl⟩)]
  | undecodable hpermitted hroute hdecode =>
    rw [(callFault_eq_none_iff _ _ _ _ _).mpr hpermitted, hroute]
    exact (carried_eq_some_iff _ _ _ _ _).mpr (.inl ⟨_, hdecode, rfl⟩)
  | shortInnerPayload hpermitted hroute hdecode hsplit hbefore hshort =>
    rw [(callFault_eq_none_iff _ _ _ _ _).mpr hpermitted, hroute]
    refine (carried_eq_some_iff _ _ _ _ _).mpr (.inr ⟨_, _, _, _, hdecode, hsplit, hbefore, ?_⟩)
    exact (callFault_eq_some_iff _ _ _ _ _ _).mpr (.inl ⟨hshort, rfl⟩)
  | forbiddenInner hpermitted hroute hdecode hsplit hbefore hpayload hlookup =>
    rw [(callFault_eq_none_iff _ _ _ _ _).mpr hpermitted, hroute]
    refine (carried_eq_some_iff _ _ _ _ _).mpr (.inr ⟨_, _, _, _, hdecode, hsplit, hbefore, ?_⟩)
    exact (callFault_eq_some_iff _ _ _ _ _ _).mpr (.inr ⟨_, ⟨_, hpayload⟩, hlookup, rfl⟩)

theorem single_eq_some_iff (governance : Governance) (chain : ChainId) (index : Nat)
    (instruction : Instruction) (offence : Offence) :
    single governance chain index instruction = some offence ↔
      governance.Objection chain index instruction offence :=
  ⟨objection_of_single, single_of_objection⟩

/-! ## The whole batch -/

theorem firstFrom_eq_firstFault (governance : Governance) (chain : ChainId) (index : Nat)
    (instructions : List Instruction) :
    firstFrom governance chain index instructions =
      firstFault (single governance chain) index instructions := by
  induction instructions generalizing index with
  | nil => rfl
  | cons instruction rest ih =>
    rw [firstFrom, firstFault_cons, ih]
    cases single governance chain index instruction <;> rfl

end Review

namespace Governance

theorem review_eq_ok_iff (governance : Governance) (batch : Batch) (chain : ChainId) :
    governance.review batch chain = .ok () ↔
      ∀ instruction ∈ batch.instructions, governance.Approves chain instruction := by
  rw [← firstFault_eq_none_iff (Review.single_eq_none_iff governance chain) 0,
    ← Review.firstFrom_eq_firstFault, review, offence?]
  cases Review.firstFrom governance chain 0 batch.instructions <;> simp

theorem review_eq_error_iff (governance : Governance) (batch : Batch) (chain : ChainId)
    (offence : Offence) :
    governance.review batch chain = .error offence ↔
      ∃ before instruction after, batch.instructions = before ++ instruction :: after ∧
        (∀ earlier ∈ before, governance.Approves chain earlier) ∧
        governance.Objection chain before.length instruction offence := by
  have hfirst : governance.review batch chain = .error offence ↔
      Review.firstFrom governance chain 0 batch.instructions = some offence := by
    rw [review, offence?]
    cases Review.firstFrom governance chain 0 batch.instructions <;> simp
  rw [hfirst, Review.firstFrom_eq_firstFault,
    firstFault_eq_some_iff (Review.single_eq_none_iff governance chain)]
  simp only [Nat.zero_add, Review.single_eq_some_iff]

/-- A review passes exactly the batches whose instructions are all approved. Otherwise it reports the
objection to the first instruction that is not: the first check that fails there, in the order of
the call's own payload, the call itself, the batch that it carries and the calls of that batch. -/
theorem review_sound_complete (governance : Governance) (batch : Batch) (chain : ChainId) :
    (governance.review batch chain = .ok () ↔
      ∀ instruction ∈ batch.instructions, governance.Approves chain instruction) ∧
    ∀ offence, governance.review batch chain = .error offence ↔
      ∃ before instruction after, batch.instructions = before ++ instruction :: after ∧
        (∀ earlier ∈ before, governance.Approves chain earlier) ∧
        governance.Objection chain before.length instruction offence :=
  ⟨review_eq_ok_iff governance batch chain, review_eq_error_iff governance batch chain⟩

end Governance

end GovernanceRelay
