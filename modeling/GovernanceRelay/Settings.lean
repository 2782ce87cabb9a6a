import GovernanceRelay.Governance

/-!
# Settings

The settings name the chain that is governed, where its governance is saved, who administers it at
first, the timelock that approved batches go to, and how the program reports what it does. They also
list what a new governance begins with: mediators, allowed calls and bridge entrypoints.
-/

set_option autoImplicit false

namespace GovernanceRelay

/-- The timelock that approved batches are forwarded to. -/
structure TimelockSettings where
  /-- Its account. -/
  address : Address
  /-- The delay between scheduling and execution. -/
  minDelay : Seconds
deriving DecidableEq

/-- How the program logs. -/
structure LoggingSettings where
  /-- The filter of what is logged. -/
  level : String
  /-- Whether each entry is an object in JSON. -/
  json : Bool
  /-- The file that entries are added to, instead of the error stream. -/
  file : Option String
deriving DecidableEq

/-- Whether and where the counters are exported. -/
structure MetricsSettings where
  /-- Whether they are exported. -/
  enabled : Bool
  /-- The file they are written to, instead of the output. -/
  output : Option String
deriving DecidableEq

/-- A mediator that a new governance has. -/
structure MediatorSeed where
  /-- The chain. -/
  chain : ChainId
  /-- Its mediator. -/
  address : Address
deriving DecidableEq

/-- A setting of the allow-list that a new governance has. -/
structure PolicySeed where
  /-- Whom to call. -/
  target : Address
  /-- The selector, or a signature that has it. -/
  selector : String
  /-- On which chain. -/
  chain : ChainId
  /-- Whether it is allowed. -/
  allowed : Bool
deriving DecidableEq

/-- A bridge entrypoint that a new governance has. -/
structure RouteSeed where
  /-- The entrypoint. -/
  entrypoint : Address
  /-- The chain that calls to it carry batches to. -/
  destination : ChainId
deriving DecidableEq

/-- All settings. -/
structure Settings where
  /-- The name under which the program logs. -/
  name : String
  /-- The chain that is governed. -/
  homeChain : ChainId
  /-- The file in which the governance is saved. -/
  statePath : String
  /-- The first admin. -/
  admin : Address
  /-- The account that forwards approved batches. -/
  operator : Address
  /-- The timelock they are forwarded to. -/
  timelock : TimelockSettings
  /-- How the program logs. -/
  logging : LoggingSettings
  /-- Whether and where the counters are exported. -/
  metrics : MetricsSettings
  /-- The mediators of a new governance. -/
  mediators : List MediatorSeed
  /-- The allow-list of a new governance. -/
  policies : List PolicySeed
  /-- The bridge entrypoints of a new governance. -/
  routes : List RouteSeed
deriving DecidableEq

/-- Why settings are refused. -/
inductive SettingsError where
  /-- The chain that is governed is numbered zero. -/
  | zeroHomeChain
  /-- The first admin is the zero address. -/
  | zeroAdmin
  /-- A path might lead out of its directory. -/
  | traversal
  /-- The mediator of a chain is the zero address. -/
  | zeroMediator (chain : ChainId)
  /-- The allow-list has no selector at an index. -/
  | selector (index : Nat) (error : IdentifierError)
deriving DecidableEq

/-- The wording of each refusal. -/
def SettingsError.message : SettingsError → String
  | .zeroHomeChain => "home_chain_id cannot be 0"
  | .zeroAdmin => "admin cannot be the zero address"
  | .traversal => "Invalid path: directory traversal detected"
  | .zeroMediator chain =>
    "mediator for chain " ++ toString chain.toNat ++ " is the zero address"
  | .selector index error => "policy " ++ toString index ++ ": " ++ error.message

/-- Why a governance does not begin as the settings say. -/
inductive SeedError where
  /-- The governance refuses a part. -/
  | governance (error : GovernanceError)
  /-- The allow-list has something that is no selector. -/
  | selector (error : IdentifierError)
deriving DecidableEq

/-- The wording of each refusal. -/
def SeedError.message : SeedError → String
  | .governance error => error.message
  | .selector error => error.message

/-- Whether two dots stand side by side in a text. -/
def hasTwoDots : List Char → Bool
  | '.' :: '.' :: _ => true
  | _ :: rest => hasTwoDots rest
  | [] => false

/-- Whether a path might lead out of its directory. -/
def mayTraverse (path : String) : Bool := hasTwoDots path.toList

namespace Settings

/-- The settings where nothing else is said. -/
def default : Settings where
  name := "relaygate"
  homeChain := 1
  statePath := "./relaygate-state.bin"
  admin := FixedBytes.replicate 0xad
  operator := FixedBytes.replicate 0x0b
  timelock := ⟨FixedBytes.replicate 0x71, 172800⟩
  logging := ⟨"info", false, none⟩
  metrics := ⟨false, none⟩
  mediators := []
  policies := []
  routes := []

/-! ## Validation -/

/-- The first mediator that is the zero address. -/
def zeroMediator? : List MediatorSeed → Option SettingsError
  | [] => none
  | seed :: rest =>
    if seed.address.isZero then some (.zeroMediator seed.chain) else zeroMediator? rest

/-- The first entry of the allow-list without a selector, counted from an index. -/
def badSelector? (index : Nat) : List PolicySeed → Option SettingsError
  | [] => none
  | seed :: rest =>
    match Selector.parseAny seed.selector with
    | .error error => some (.selector index error)
    | .ok _ => badSelector? (index + 1) rest

/-- What is wrong with the settings, if anything. -/
def fault? (settings : Settings) : Option SettingsError :=
  if settings.homeChain = 0 then some .zeroHomeChain
  else if settings.admin.isZero then some .zeroAdmin
  else if mayTraverse settings.statePath then some .traversal
  else
    match zeroMediator? settings.mediators with
    | some error => some error
    | none => badSelector? 0 settings.policies

/-- Whether the settings are right, or what is wrong with them. -/
def validate (settings : Settings) : Except SettingsError Unit :=
  match settings.fault? with
  | some error => .error error
  | none => .ok ()

/-! ## A new governance -/

/-- The settings of the allow-list with their selectors. -/
def policyEntries : List PolicySeed → Except IdentifierError (List PolicyEntry)
  | [] => .ok []
  | seed :: rest =>
    match Selector.parseAny seed.selector with
    | .error error => .error error
    | .ok selector =>
      match policyEntries rest with
      | .error error => .error error
      | .ok entries => .ok (⟨⟨seed.target, selector, seed.chain⟩, seed.allowed⟩ :: entries)

/-- Give chains their mediators on behalf of an admin. -/
def seedMediators (admin : Address) (governance : Governance) :
    List MediatorSeed → Except GovernanceError Governance
  | [] => .ok governance
  | seed :: rest =>
    match governance.setMediator admin seed.chain seed.address with
    | .error error => .error error
    | .ok (_, governance) => seedMediators admin governance rest

/-- Declare bridge entrypoints on behalf of an admin. -/
def seedRoutes (admin : Address) (governance : Governance) :
    List RouteSeed → Except GovernanceError Governance
  | [] => .ok governance
  | seed :: rest =>
    match governance.setRoute admin seed.entrypoint seed.destination with
    | .error error => .error error
    | .ok governance => seedRoutes admin governance rest

/-- Apply entries of the allow-list on behalf of an admin, if there are any. -/
def seedPolicies (admin : Address) (governance : Governance) (entries : List PolicyEntry) :
    Except GovernanceError Governance :=
  if entries.isEmpty then .ok governance
  else
    match governance.setPolicies admin entries with
    | .error error => .error error
    | .ok (_, governance) => .ok governance

/-- The governance that begins as the settings say. -/
def seed (settings : Settings) : Except SeedError Governance :=
  match seedMediators settings.admin (Governance.create settings.admin) settings.mediators with
  | .error error => .error (.governance error)
  | .ok governance =>
    match policyEntries settings.policies with
    | .error error => .error (.selector error)
    | .ok entries =>
      match seedPolicies settings.admin governance entries with
      | .error error => .error (.governance error)
      | .ok governance =>
        match seedRoutes settings.admin governance settings.routes with
        | .error error => .error (.governance error)
        | .ok governance => .ok governance

end Settings

end GovernanceRelay
