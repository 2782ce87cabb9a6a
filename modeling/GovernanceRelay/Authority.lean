import GovernanceRelay.Role

/-!
# Who holds which role

For each role that was ever granted the table keeps the set of its holders, which may have become
empty. Granting a held role and revoking a role that is not held change nothing.
-/

set_option autoImplicit false

namespace GovernanceRelay

/-- The holders of each role that was ever granted. -/
abbrev Authority := OrderedMap Role (OrderedSet Address)

/-- One change of a role's holders. -/
inductive RoleStep where
  /-- Let an account hold a role. -/
  | grant (role : Role) (account : Address)
  /-- Take a role from an account. -/
  | revoke (role : Role) (account : Address)
deriving DecidableEq

namespace RoleStep

/-- The role that is changed. -/
def role : RoleStep → Role
  | grant role _ => role
  | revoke role _ => role

/-- The step in words. -/
def toText : RoleStep → String
  | grant role account => "grant " ++ role.toText ++ " to " ++ account.toText
  | revoke role account => "revoke " ++ role.toText ++ " from " ++ account.toText

end RoleStep

namespace Authority

/-- The holders of a role in order. -/
def holders (table : Authority) (role : Role) : List Address :=
  match table.find? role with
  | some set => set.keys
  | none => []

/-- The number of holders of a role. -/
def holderCount (table : Authority) (role : Role) : Nat :=
  match table.find? role with
  | some set => set.size
  | none => 0

/-- Whether an account holds a role. -/
def holds (table : Authority) (role : Role) (account : Address) : Bool :=
  match table.find? role with
  | some set => set.contains account
  | none => false

/-- Let an account hold a role. -/
def grant (table : Authority) (role : Role) (account : Address) : Authority :=
  table.insert role (((table.find? role).getD OrderedMap.empty).insert account ())

/-- Take a role from an account. -/
def revoke (table : Authority) (role : Role) (account : Address) : Authority :=
  match table.find? role with
  | some set => table.insert role (set.erase account)
  | none => table

/-- The table in which one account is the admin and nobody holds anything else. -/
def ofAdmin (admin : Address) : Authority := grant OrderedMap.empty .admin admin

/-- All pairs of a role and a holder, in order. -/
def assignments (table : Authority) : List (Role × Address) :=
  table.entries.flatMap fun entry => entry.2.keys.map fun account => (entry.1, account)

/-- Whether a step would change anything. -/
def changes (table : Authority) : RoleStep → Bool
  | .grant role account => !table.holds role account
  | .revoke role account => table.holds role account

/-- Apply one step. -/
def apply (table : Authority) : RoleStep → Authority
  | .grant role account => table.grant role account
  | .revoke role account => table.revoke role account

/-- Apply steps in order. -/
def applyAll (table : Authority) (steps : List RoleStep) : Authority := steps.foldl apply table

/-- The number of steps that change something when they are applied in order. -/
def changeCount (table : Authority) : List RoleStep → Nat
  | [] => 0
  | step :: rest => (if table.changes step then 1 else 0) + changeCount (table.apply step) rest

end Authority

end GovernanceRelay
