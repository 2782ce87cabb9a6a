import GovernanceRelay.Identifier

/-!
# Roles

The four roles of a timelock, their order, their names and the digests that stand for them on
chain.
-/

set_option autoImplicit false

namespace GovernanceRelay

/-- What an account may be entitled to. -/
inductive Role where
  /-- Changes roles and governance. -/
  | admin
  /-- Schedules batches. -/
  | proposer
  /-- Executes batches that are ready. -/
  | executor
  /-- Cancels batches that wait. -/
  | canceller
deriving DecidableEq, Repr

namespace Role

/-- The roles in order. -/
def all : List Role := [admin, proposer, executor, canceller]

/-- The position of a role among all. -/
def position : Role → Nat
  | admin => 0
  | proposer => 1
  | executor => 2
  | canceller => 3

instance : Ranked Role where
  rank := position
  rank_injective := by intro left right h; cases left <;> cases right <;> first | rfl | cases h

/-- The name that the role's digest is taken of. -/
def name : Role → String
  | admin => "TIMELOCK_ADMIN_ROLE"
  | proposer => "PROPOSER_ROLE"
  | executor => "EXECUTOR_ROLE"
  | canceller => "CANCELLER_ROLE"

/-- The word for the role. -/
def toText : Role → String
  | admin => "admin"
  | proposer => "proposer"
  | executor => "executor"
  | canceller => "canceller"

/-- The digest that stands for the role. -/
def id (role : Role) : Digest := keccak256 (role.name.toList.flatMap String.utf8EncodeChar)

/-- The role that a digest stands for. -/
def ofId? (digest : Digest) : Option Role := all.find? fun role => role.id == digest

/-- The role at a position. -/
def ofPosition? (position : Nat) : Option Role := all[position]?

/-- The role of a word or name, in lower case. -/
def ofWord? : String → Option Role
  | "admin" => some admin
  | "timelock_admin_role" => some admin
  | "proposer" => some proposer
  | "proposer_role" => some proposer
  | "executor" => some executor
  | "executor_role" => some executor
  | "canceller" => some canceller
  | "canceler" => some canceller
  | "canceller_role" => some canceller
  | _ => none

/-- Read a role: its word or name in any case, with blanks around it. -/
def parse (text : String) : Except IdentifierError Role :=
  match ofWord? (String.ofList ((Text.trim text.toList).map Char.toLower)) with
  | some role => .ok role
  | none => .error (.unknownRole text)

theorem mem_all (role : Role) : role ∈ all := by cases role <;> decide

end Role

end GovernanceRelay
