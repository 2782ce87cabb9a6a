import GovernanceRelay.Settings
import GovernanceRelay.Toml.Document

/-!
# Settings in TOML

Each setting has a name in the document. Settings that the document does not mention keep their
default, names that mean nothing are ignored, and a value of the wrong kind is a fault. Sections
may also be lists of their fields in order. Mediators, allowed calls and entrypoints are tables of
which all fields are needed, except that a call is allowed unless it says otherwise.
-/

set_option autoImplicit false

namespace GovernanceRelay.Settings

open Toml (Value)

/-! ## Reading -/

/-- Read an address. -/
def readAddress (value : Value) : Option Address :=
  value.text?.bind fun text => (Address.parse text).toOption

/-- Read a field that has a default. -/
def optional {α : Type} (read : Value → Option α) (fallback : α) (field : Option Value) :
    Option α :=
  match field with
  | none => some fallback
  | some value => read value

/-- Read a field that may be absent. -/
def absent {α : Type} (read : Value → Option α) (field : Option Value) : Option (Option α) :=
  optional (fun value => (read value).map some) none field

/-- Read a list. -/
def readList {α : Type} (read : Value → Option α) (value : Value) : Option (List α) :=
  value.elements?.bind fun elements => elements.mapM read

/-- Read a record. -/
def readRecord {α : Type} (read : (Nat → String → Option Value) → Option α) (value : Value) :
    Option α :=
  if value.isRecord then read value.field? else none

/-- Read the section of the timelock. -/
def readTimelock : Value → Option TimelockSettings :=
  readRecord fun field => do
    return {
      address := ← optional readAddress default.timelock.address (field 0 "address")
      minDelay := ← optional Value.word? default.timelock.minDelay (field 1 "min_delay") }

/-- Read the section of the log. -/
def readLogging : Value → Option LoggingSettings :=
  readRecord fun field => do
    return {
      level := ← optional Value.text? default.logging.level (field 0 "level")
      json := ← optional Value.boolean? default.logging.json (field 1 "json")
      file := ← absent Value.text? (field 2 "file") }

/-- Read the section of the counters. -/
def readMetrics : Value → Option MetricsSettings :=
  readRecord fun field => do
    return {
      enabled := ← optional Value.boolean? default.metrics.enabled (field 0 "enabled")
      output := ← absent Value.text? (field 1 "output") }

/-- Read a mediator. -/
def readMediator : Value → Option MediatorSeed :=
  readRecord fun field => do
    return {
      chain := ← (← field 0 "chain_id").word?
      address := ← readAddress (← field 1 "address") }

/-- Read a setting of the allow-list. -/
def readPolicy : Value → Option PolicySeed :=
  readRecord fun field => do
    return {
      target := ← readAddress (← field 0 "target")
      selector := ← (← field 1 "selector").text?
      chain := ← (← field 2 "chain_id").word?
      allowed := ← optional Value.boolean? true (field 3 "allowed") }

/-- Read a bridge entrypoint. -/
def readRoute : Value → Option RouteSeed :=
  readRecord fun field => do
    return {
      entrypoint := ← readAddress (← field 0 "entrypoint")
      destination := ← (← field 1 "destination_chain").word? }

/-- The settings in a table. -/
def ofTable? (table : Toml.Table) : Option Settings := do
  return {
    name := ← optional Value.text? default.name (table.find? "name")
    homeChain := ← optional Value.word? default.homeChain (table.find? "home_chain_id")
    statePath := ← optional Value.text? default.statePath (table.find? "state_path")
    admin := ← optional readAddress default.admin (table.find? "admin")
    operator := ← optional readAddress default.operator (table.find? "operator")
    timelock := ← optional readTimelock default.timelock (table.find? "timelock")
    logging := ← optional readLogging default.logging (table.find? "logging")
    metrics := ← optional readMetrics default.metrics (table.find? "metrics")
    mediators := ← optional (readList readMediator) default.mediators (table.find? "mediators")
    policies := ← optional (readList readPolicy) default.policies (table.find? "policies")
    routes := ← optional (readList readRoute) default.routes (table.find? "bridge_routes") }

/-- The settings in a document. -/
def ofText? (document : String) : Option Settings := (Toml.readDocument document).bind ofTable?

/-! ## Writing -/

/-- A string with quotes and escapes. -/
def quote (content : String) : String :=
  "\"" ++ String.join (content.toList.map fun c =>
    if c = '"' then "\\\""
    else if c = '\\' then "\\\\"
    else if Toml.isPlain c then c.toString
    else "\\u00" ++ String.ofList (Hex.encodeByte (UInt8.ofNat c.toNat))) ++ "\""

/-- A line that gives a name a value. -/
def line (name value : String) : String := name ++ " = " ++ value ++ "\n"

/-- The text of a number. -/
def writeWord (number : UInt64) : String := toString number.toNat

/-- The text of a truth value. -/
def writeBoolean (flag : Bool) : String := if flag then "true" else "false"

/-- The text of an address. -/
def writeAddress (address : Address) : String := quote address.toText

/-- The line of a name that has a value, if it has. -/
def optionalLine (name : String) (value : Option String) : String :=
  match value with
  | none => ""
  | some value => line name (quote value)

/-- The line of a list without elements, which no heading could tell. -/
def emptyLine {α : Type} (name : String) (elements : List α) : String :=
  if elements.isEmpty then line name "[]" else ""

/-- The tables of a list, each under a heading of its own. -/
def writeElements {α : Type} (name : String) (write : α → String) (elements : List α) : String :=
  String.join (elements.map fun element => "\n[[" ++ name ++ "]]\n" ++ write element)

/-- The document of settings. -/
def toText (settings : Settings) : String :=
  line "name" (quote settings.name)
    ++ line "home_chain_id" (writeWord settings.homeChain)
    ++ line "state_path" (quote settings.statePath)
    ++ line "admin" (writeAddress settings.admin)
    ++ line "operator" (writeAddress settings.operator)
    ++ emptyLine "mediators" settings.mediators
    ++ emptyLine "policies" settings.policies
    ++ emptyLine "bridge_routes" settings.routes
    ++ "\n[timelock]\n"
    ++ line "address" (writeAddress settings.timelock.address)
    ++ line "min_delay" (writeWord settings.timelock.minDelay)
    ++ "\n[logging]\n"
    ++ line "level" (quote settings.logging.level)
    ++ line "json" (writeBoolean settings.logging.json)
    ++ optionalLine "file" settings.logging.file
    ++ "\n[metrics]\n"
    ++ line "enabled" (writeBoolean settings.metrics.enabled)
    ++ optionalLine "output" settings.metrics.output
    ++ writeElements "mediators" (fun seed =>
      line "chain_id" (writeWord seed.chain) ++ line "address" (writeAddress seed.address))
      settings.mediators
    ++ writeElements "policies" (fun seed =>
      line "target" (writeAddress seed.target) ++ line "selector" (quote seed.selector)
        ++ line "chain_id" (writeWord seed.chain) ++ line "allowed" (writeBoolean seed.allowed))
      settings.policies
    ++ writeElements "bridge_routes" (fun seed =>
      line "entrypoint" (writeAddress seed.entrypoint)
        ++ line "destination_chain" (writeWord seed.destination))
      settings.routes

end GovernanceRelay.Settings
