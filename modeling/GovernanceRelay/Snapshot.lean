import GovernanceRelay.Governance
import GovernanceRelay.Layout
import GovernanceRelay.Receiver

/-!
# Saved governance and saved progress

A snapshot lists everything that makes up a governance: the assignments of roles, the mediators,
the changes of the allow-list and the routes. A governance is rebuilt from its snapshot. Snapshots
and ledgers have a binary layout, field after field, if their lists are not too long to be counted.
-/

set_option autoImplicit false

namespace GovernanceRelay

/-- A governance in lists. -/
structure Snapshot where
  /-- The version of the form. -/
  version : UInt8
  /-- The holders of roles. -/
  roles : List (Role × Address)
  /-- The mediators of chains. -/
  mediators : List (ChainId × Address)
  /-- The changes of the allow-list, the oldest first. -/
  history : List PolicyChange
  /-- The chains behind bridge entrypoints. -/
  routes : List (Address × ChainId)
deriving DecidableEq

/-- Why a governance or a ledger is not restored or not saved. -/
inductive SnapshotError where
  /-- The version is not the current one. -/
  | unsupportedVersion (version : UInt8)
  /-- The bytes are no written form, or there is none. -/
  | malformed (error : LayoutError)
  /-- A mediator is refused. -/
  | mediator (error : MediatorError)
deriving DecidableEq

/-- The wording of each fault. -/
def SnapshotError.message : SnapshotError → String
  | .unsupportedVersion version =>
    "Snapshot error: unsupported snapshot version " ++ toString version.toNat
  | .malformed error => "Snapshot error: " ++ error.message
  | .mediator error => error.message

namespace Layout

/-- A setting: target, selector, chain, whether allowed. -/
def policyEntry : Layout PolicyEntry :=
  ((identifier 20).pair ((identifier 4).pair (word.pair bool))).map
    (fun entry => (entry.key.target, entry.key.selector, entry.key.chain, entry.allowed))
    fun (target, selector, chain, allowed) => .ok ⟨⟨target, selector, chain⟩, allowed⟩

/-- A change: position, target, selector, chain, what was said before, what is said since. -/
def policyChange : Layout PolicyChange :=
  (word.pair ((identifier 20).pair ((identifier 4).pair (word.pair (bool.option.pair bool))))).map
    (fun change => (change.sequence, change.key.target, change.key.selector, change.key.chain,
      change.previous, change.allowed))
    fun (sequence, target, selector, chain, previous, allowed) =>
      .ok ⟨sequence, ⟨target, selector, chain⟩, previous, allowed⟩

/-- A snapshot: version, roles, mediators, changes, routes. -/
def snapshot : Layout Snapshot :=
  (byte.pair ((role.pair (identifier 20)).list.pair ((word.pair (identifier 20)).list.pair
    (policyChange.list.pair ((identifier 20).pair word).list)))).map
    (fun saved => (saved.version, saved.roles, saved.mediators, saved.history, saved.routes))
    fun (version, roles, mediators, history, routes) =>
      .ok ⟨version, roles, mediators, history, routes⟩

/-- A ledger: version, messages carried out, messages begun. -/
def ledger : Layout Ledger :=
  (byte.pair ((identifier 32).list.pair ((identifier 32).pair word).list)).map
    (fun saved => (saved.version, saved.processed, saved.started))
    fun (version, processed, started) => .ok ⟨version, processed, started⟩

end Layout

namespace Snapshot

/-- The version of snapshots that are written now. -/
def currentVersion : UInt8 := 1

/-- The bytes of a snapshot, unless one of its lists is too long to be counted. -/
def encode (snapshot : Snapshot) : Except SnapshotError Bytes :=
  (Layout.snapshot.writeAll snapshot).mapError .malformed

/-- The snapshot that fills the bytes. -/
def ofBytes (bytes : Bytes) : Except SnapshotError Snapshot :=
  (Layout.snapshot.readAll bytes).mapError .malformed

end Snapshot

namespace Ledger

/-- The bytes of a ledger, unless one of its lists is too long to be counted. -/
def encode (ledger : Ledger) : Except SnapshotError Bytes :=
  (Layout.ledger.writeAll ledger).mapError .malformed

/-- The ledger that fills the bytes. -/
def ofBytes (bytes : Bytes) : Except SnapshotError Ledger :=
  (Layout.ledger.readAll bytes).mapError .malformed

end Ledger

namespace Governance

/-- The lists that make up a governance. -/
def snapshot (governance : Governance) : Snapshot where
  version := Snapshot.currentVersion
  roles := governance.roles.assignments
  mediators := governance.mediators.entries
  history := governance.policies.history
  routes := governance.routes.entries

/-- Give chains their mediators one after the other. -/
def assignAll (mediators : Mediators) :
    List (ChainId × Address) → Except MediatorError Mediators
  | [] => .ok mediators
  | (chain, mediator) :: rest =>
    match mediators.assign chain mediator with
    | .error error => .error error
    | .ok (_, mediators) => assignAll mediators rest

/-- The governance that a snapshot describes. -/
def ofSnapshot (snapshot : Snapshot) : Except SnapshotError Governance :=
  if snapshot.version ≠ Snapshot.currentVersion then
    .error (.unsupportedVersion snapshot.version)
  else
    match assignAll OrderedMap.empty snapshot.mediators with
    | .error error => .error (.mediator error)
    | .ok mediators =>
      .ok {
        roles := snapshot.roles.foldl (fun table entry => table.grant entry.1 entry.2)
          OrderedMap.empty
        mediators := mediators
        policies := AllowList.ofHistory snapshot.history
        routes := OrderedMap.ofList snapshot.routes }

/-- The governance that bytes describe. -/
def ofBytes (bytes : Bytes) : Except SnapshotError Governance :=
  match Snapshot.ofBytes bytes with
  | .error error => .error error
  | .ok snapshot => ofSnapshot snapshot

end Governance

end GovernanceRelay
