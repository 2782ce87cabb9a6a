import GovernanceRelay.Instruction

/-!
# The allow-list of calls

A call is identified by its target, its selector and the chain it runs on. The allow-list says of
some calls whether they are allowed; a call that it says nothing about is not. Settings are never
deleted, only replaced, and each replacement is appended to the history of changes, from which the
settings can be rebuilt. An update is checked as a whole before any of it is applied.
-/

set_option autoImplicit false

namespace GovernanceRelay

/-- What a setting is about. -/
structure CallKey where
  /-- The account called. -/
  target : Address
  /-- The function called. -/
  selector : Selector
  /-- The chain on which the call runs. -/
  chain : ChainId
deriving DecidableEq

/-- Keys are ordered by target, then by selector, then by chain. -/
def CallKey.weight (key : CallKey) : Nat :=
  (rank key.target * UInt32.size + rank key.selector) * UInt64.size + rank key.chain

theorem CallKey.weight_injective (left right : CallKey) (h : left.weight = right.weight) :
    left = right := by
  have hls : rank left.selector < UInt32.size := by
    have hlt := Bytes.value_lt left.selector.bytes
    rwa [left.selector.length_bytes] at hlt
  have hrs : rank right.selector < UInt32.size := by
    have hlt := Bytes.value_lt right.selector.bytes
    rwa [right.selector.length_bytes] at hlt
  have hlc : rank left.chain < UInt64.size := left.chain.toNat_lt
  have hrc : rank right.chain < UInt64.size := right.chain.toNat_lt
  unfold CallKey.weight at h
  simp only [UInt32.size, UInt64.size] at *
  have htarget : rank left.target = rank right.target := by omega
  have hselector : rank left.selector = rank right.selector := by omega
  have hchain : rank left.chain = rank right.chain := by omega
  cases left; cases right
  simp only [CallKey.mk.injEq]
  exact ⟨Ranked.rank_injective _ _ htarget, Ranked.rank_injective _ _ hselector,
    Ranked.rank_injective _ _ hchain⟩

instance : Ranked CallKey where
  rank := CallKey.weight
  rank_injective := CallKey.weight_injective

/-- One setting. -/
structure PolicyEntry where
  /-- The call that the setting is about. -/
  key : CallKey
  /-- Whether the call is allowed. -/
  allowed : Bool
deriving DecidableEq

/-- The record of one applied setting. -/
structure PolicyChange where
  /-- The position in the history. -/
  sequence : UInt64
  /-- The call that was set. -/
  key : CallKey
  /-- What was said of the call before, if anything. -/
  previous : Option Bool
  /-- What has been said since. -/
  allowed : Bool
deriving DecidableEq

/-- Why an update is refused. -/
inductive PolicyError where
  /-- It has no entry. -/
  | empty
  /-- The entry at an index names the zero address. -/
  | zeroTarget (index : Nat)
  /-- The entry at an index names the zero selector. -/
  | zeroSelector (index : Nat)
  /-- The entry at an index names chain zero. -/
  | zeroChain (index : Nat)
  /-- The four columns have different lengths. -/
  | lengths (targets selectors chains statuses : Nat)
deriving DecidableEq, Repr

/-- The wording of each refusal. -/
def PolicyError.message (error : PolicyError) : String :=
  "Malformed policy update: " ++
    match error with
    | .empty => "empty update"
    | .zeroTarget index => "entry " ++ toString index ++ " has the zero address as target"
    | .zeroSelector index => "entry " ++ toString index ++ " has the zero selector"
    | .zeroChain index => "entry " ++ toString index ++ " has chain id 0"
    | .lengths targets selectors chains statuses =>
      "array lengths differ: targets " ++ toString targets ++ ", selectors " ++ toString selectors
        ++ ", chain_ids " ++ toString chains ++ ", statuses " ++ toString statuses

/-- An update given by columns. -/
structure PolicyColumns where
  /-- The target of each entry. -/
  targets : List Address
  /-- The selector of each entry. -/
  selectors : List Selector
  /-- The chain of each entry. -/
  chains : List ChainId
  /-- Whether each entry allows its call. -/
  statuses : List Bool

/-- The entries that four columns describe row by row. -/
def PolicyColumns.rows :
    List Address → List Selector → List ChainId → List Bool → List PolicyEntry
  | target :: targets, selector :: selectors, chain :: chains, allowed :: statuses =>
    ⟨⟨target, selector, chain⟩, allowed⟩ :: rows targets selectors chains statuses
  | _, _, _, _ => []

/-- The entries of an update by columns, which have to be of one length and not empty. -/
def PolicyColumns.entries (columns : PolicyColumns) : Except PolicyError (List PolicyEntry) :=
  let size := columns.targets.length
  if size = 0 then .error .empty
  else if columns.selectors.length ≠ size ∨ columns.chains.length ≠ size
      ∨ columns.statuses.length ≠ size then
    .error (.lengths size columns.selectors.length columns.chains.length columns.statuses.length)
  else .ok (rows columns.targets columns.selectors columns.chains columns.statuses)

/-- Which calls are allowed, and how that came about. -/
structure AllowList where
  /-- The current settings. -/
  settings : OrderedMap CallKey Bool
  /-- All changes, the oldest first. -/
  history : List PolicyChange
deriving DecidableEq

namespace AllowList

/-- The allow-list that says nothing. -/
def empty : AllowList := ⟨OrderedMap.empty, []⟩

/-- What is said of a call, if anything. -/
def lookup (list : AllowList) (key : CallKey) : Option Bool := list.settings.find? key

/-- Whether a call is allowed. -/
def allows (list : AllowList) (key : CallKey) : Bool := (list.lookup key).getD false

/-- The current settings in order. -/
def entries (list : AllowList) : List PolicyEntry :=
  list.settings.entries.map fun entry => ⟨entry.1, entry.2⟩

/-- The number of calls that are allowed. -/
def allowedCount (list : AllowList) : Nat :=
  (list.settings.entries.filter fun entry => entry.2).length

/-- The first fault of the entries, counted from an index. -/
def faultFrom (index : Nat) : List PolicyEntry → Option PolicyError
  | [] => none
  | entry :: rest =>
    if entry.key.target.isZero then some (.zeroTarget index)
    else if entry.key.selector.isZero then some (.zeroSelector index)
    else if entry.key.chain = 0 then some (.zeroChain index)
    else faultFrom (index + 1) rest

/-- Apply one setting and record the change. -/
def record (list : AllowList) (entry : PolicyEntry) : AllowList where
  settings := list.settings.insert entry.key entry.allowed
  history := list.history ++
    [⟨UInt64.ofNat list.history.length, entry.key, list.lookup entry.key, entry.allowed⟩]

/-- Apply an update as a whole or not at all; of several settings of one call the last stays. -/
def update (list : AllowList) (entries : List PolicyEntry) :
    Except PolicyError (Nat × AllowList) :=
  if entries.isEmpty then .error .empty
  else
    match faultFrom 0 entries with
    | some error => .error error
    | none => .ok (entries.length, entries.foldl record list)

/-- Apply an update given by columns. -/
def updateColumns (list : AllowList) (columns : PolicyColumns) :
    Except PolicyError (Nat × AllowList) :=
  match columns.entries with
  | .error error => .error error
  | .ok entries => list.update entries

/-- The allow-list with a given history, its settings rebuilt from the changes in order. -/
def ofHistory (history : List PolicyChange) : AllowList where
  settings := history.foldl (fun map change => map.insert change.key change.allowed)
    OrderedMap.empty
  history := history

end AllowList

end GovernanceRelay
