import GovernanceRelay.Governance

/-!
# Review of batches

A batch passes if each of its calls is allowed on the chain it is meant for and each call to a
bridge entrypoint carries a batch whose calls are all allowed on the chain behind the bridge. The
first offence in order of reading decides. A batch that passes is handed to the timelock as it is;
if the review or the timelock refuses, nothing has changed.
-/

set_option autoImplicit false

namespace GovernanceRelay

/-- What a review objects to. -/
inductive Offence where
  /-- The payload at an index names no function. -/
  | shortPayload (index length : Nat)
  /-- The call at an index is not allowed. -/
  | forbidden (index : Nat) (target : Address) (selector : Selector)
  /-- The payload at an index carries no batch behind its selector. -/
  | undecodable (index : Nat) (error : WireError)
  /-- The payload of a carried call names no function. -/
  | shortInnerPayload (index inner length : Nat)
  /-- A carried call is not allowed on the chain that it is carried to. -/
  | forbiddenInner (index inner : Nat) (chain : ChainId) (target : Address) (selector : Selector)
deriving DecidableEq

/-- The wording of each objection. -/
def Offence.message : Offence → String
  | .shortPayload index length =>
    "Instruction " ++ toString index ++ " payload has " ++ toString length
      ++ " bytes, too short for a selector"
  | .forbidden index target selector =>
    "Policy violation at instruction " ++ toString index ++ ": " ++ target.toText ++ " selector "
      ++ selector.toText ++ " is not allowed"
  | .undecodable index error =>
    "Instruction " ++ toString index ++ " carries an undecodable bridged payload: "
      ++ error.message
  | .shortInnerPayload index inner length =>
    "Bridged instruction " ++ toString index ++ "." ++ toString inner ++ " payload has "
      ++ toString length ++ " bytes, too short for a selector"
  | .forbiddenInner index inner chain target selector =>
    "Bridged policy violation at instruction " ++ toString index ++ "." ++ toString inner
      ++ " on chain " ++ toString chain.toNat ++ ": " ++ target.toText ++ " selector "
      ++ selector.toText ++ " is not allowed"

namespace Review

/-- The first offence among the carried calls of the instruction at an index, counted from an inner
index. -/
def innerFrom (policies : AllowList) (chain : ChainId) (index inner : Nat) :
    List Instruction → Option Offence
  | [] => none
  | call :: rest =>
    match call.selector? with
    | none => some (.shortInnerPayload index inner call.payload.length)
    | some selector =>
      if policies.allows ⟨call.target, selector, chain⟩ then
        innerFrom policies chain index (inner + 1) rest
      else some (.forbiddenInner index inner chain call.target selector)

/-- The first offence of what the instruction at an index carries to another chain. -/
def carried (policies : AllowList) (chain : ChainId) (index : Nat) (payload : Bytes) :
    Option Offence :=
  match Wire.decode (payload.drop 4) with
  | .error error => some (.undecodable index error)
  | .ok batch => innerFrom policies chain index 0 batch.instructions

/-- The first offence of the instruction at an index. -/
def single (governance : Governance) (chain : ChainId) (index : Nat) (instruction : Instruction) :
    Option Offence :=
  match instruction.selector? with
  | none => some (.shortPayload index instruction.payload.length)
  | some selector =>
    if governance.policies.allows ⟨instruction.target, selector, chain⟩ then
      match governance.routeOf instruction.target with
      | none => none
      | some destination => carried governance.policies destination index instruction.payload
    else some (.forbidden index instruction.target selector)

/-- The first offence of the instructions, counted from an index. -/
def firstFrom (governance : Governance) (chain : ChainId) (index : Nat) :
    List Instruction → Option Offence
  | [] => none
  | instruction :: rest =>
    match single governance chain index instruction with
    | some offence => some offence
    | none => firstFrom governance chain (index + 1) rest

end Review

/-- Which request an approved batch becomes. -/
inductive ForwardMode where
  /-- Schedule it. -/
  | schedule
  /-- Execute it. -/
  | execute
deriving DecidableEq, Repr

/-- The word for the mode. -/
def ForwardMode.toText : ForwardMode → String
  | .schedule => "schedule"
  | .execute => "execute"

/-- Why a batch is not forwarded. -/
inductive ForwardError where
  /-- The review objects. -/
  | offence (offence : Offence)
  /-- The timelock refuses. -/
  | refused (error : TimelockError)
deriving DecidableEq

/-- The wording of each refusal. -/
def ForwardError.message : ForwardError → String
  | .offence objection => objection.message
  | .refused error => "Timelock refused forwarded batch: " ++ error.message

namespace Governance

/-- The first offence of a batch that is meant for a chain. -/
def offence? (governance : Governance) (batch : Batch) (chain : ChainId) : Option Offence :=
  Review.firstFrom governance chain 0 batch.instructions

/-- Whether a batch passes, or what is wrong with it. -/
def review (governance : Governance) (batch : Batch) (chain : ChainId) : Except Offence Unit :=
  match governance.offence? batch chain with
  | some offence => .error offence
  | none => .ok ()

/-- Review a batch and hand it to the timelock on behalf of an operator. -/
def forward (governance : Governance) (operator : Address) (timelock : Timelock) (batch : Batch)
    (chain : ChainId) (mode : ForwardMode) : Except ForwardError (Digest × Timelock) :=
  match governance.offence? batch chain with
  | some offence => .error (.offence offence)
  | none =>
    let answer := match mode with
      | .schedule => timelock.schedule operator batch
      | .execute => timelock.execute operator batch
    match answer with
    | .error error => .error (.refused error)
    | .ok forwarded => .ok forwarded

end Governance

end GovernanceRelay
