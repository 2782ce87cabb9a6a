import GovernanceRelay.Instruction

/-!
# Trusted mediators

One address per chain speaks for that chain. A message is believed only if the address that brought
it is the mediator of the chain it is said to come from; a chain without a mediator is never
believed. The zero address mediates no chain. A sender is compared with the mediator byte by byte to
the end, so that a refusal does not show how much of the address was right.
-/

set_option autoImplicit false

namespace GovernanceRelay

/-- Why a mediator or a sender is refused. -/
inductive MediatorError where
  /-- The chain has no mediator. -/
  | unknownChain (chain : ChainId)
  /-- The sender is not the chain's mediator. -/
  | untrustedSender (chain : ChainId) (sender : Address)
  /-- The zero address was named for the chain. -/
  | zeroAddress (chain : ChainId)
deriving DecidableEq

/-- The wording of each refusal. -/
def MediatorError.message : MediatorError → String
  | .unknownChain chain => "Unknown chain: " ++ toString chain.toNat
  | .untrustedSender chain sender =>
    "Untrusted sender " ++ sender.toText ++ " for chain " ++ toString chain.toNat
  | .zeroAddress chain => "Zero address cannot mediate chain " ++ toString chain.toNat

/-- The mediator of each chain that has one. -/
abbrev Mediators := OrderedMap ChainId Address

namespace Mediators

/-- Give a chain its mediator, and tell which one it replaces. -/
def assign (mediators : Mediators) (chain : ChainId) (mediator : Address) :
    Except MediatorError (Option Address × Mediators) :=
  if mediator.isZero then .error (.zeroAddress chain)
  else .ok (mediators.find? chain, mediators.insert chain mediator)

/-- The mediator that a sender proves to be, or the reason why it is none. -/
def authenticate (mediators : Mediators) (chain : ChainId) (sender : Address) :
    Except MediatorError Address :=
  match mediators.find? chain with
  | none => .error (.unknownChain chain)
  | some mediator =>
    if mediator.agrees sender then .ok mediator else .error (.untrustedSender chain sender)

/-- Whether a sender is the mediator of a chain. -/
def trusts (mediators : Mediators) (chain : ChainId) (sender : Address) : Bool :=
  match mediators.find? chain with
  | none => false
  | some mediator => mediator.agrees sender

/-- A sender is trusted exactly when it is authenticated. -/
theorem trusts_iff_authenticate (mediators : Mediators) (chain : ChainId) (sender : Address) :
    mediators.trusts chain sender = true ↔ mediators.authenticate chain sender = .ok sender := by
  unfold trusts authenticate
  cases mediators.find? chain with
  | none => simp
  | some mediator =>
    cases hagrees : mediator.agrees sender with
    | false => simp [hagrees]
    | true =>
      obtain rfl := (FixedBytes.agrees_iff _ _).mp hagrees
      simp [hagrees]

end Mediators

end GovernanceRelay
