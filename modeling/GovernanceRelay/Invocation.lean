import GovernanceRelay.Review
import GovernanceRelay.Text.Parts

/-!
# Invocations

An invocation is what the words of a command line ask for: a command, and where to find the settings
and what to change in them. A word that begins with a dash is an option; an option with a value is
followed by it, as the next word or behind an equals sign; behind two dashes there are no more
options. Some options stand anywhere, others only behind their command. Options may be given once on
each level of commands, and the innermost one counts. Words that ask for nothing are no invocation.
-/

set_option autoImplicit false

namespace GovernanceRelay

/-- What the program is asked to do. -/
inductive Command where
  /-- Write the batch in a file in the wire format. -/
  | encode (file : String)
  /-- Read a batch of perhaps a known number of instructions from hexadecimal text. -/
  | decode (hex : String) (count : Option Nat)
  /-- Tell the selector of a signature. -/
  | selector (signature : String)
  /-- Review the batch in a file for a chain, and perhaps forward it. -/
  | review (file : String) (chain : Option ChainId) (forward : Option ForwardMode)
  /-- Give a chain its mediator. -/
  | setMediator (chain : ChainId) (mediator : Address)
  /-- Tell the mediator of a chain. -/
  | showMediator (chain : ChainId)
  /-- List all mediators. -/
  | listMediators
  /-- Allow or forbid a call. -/
  | setPolicy (target : Address) (selector : String) (chain : ChainId) (allowed : Bool)
  /-- Tell whether a call is allowed. -/
  | checkPolicy (target : Address) (selector : String) (chain : ChainId)
  /-- List all settings of the allow-list. -/
  | listPolicies
  /-- Declare a bridge entrypoint. -/
  | route (entrypoint : Address) (destination : ChainId)
  /-- Hand roles over, together or one by one, or only tell how. -/
  | transition (old new : Address) (roles : List Role) (together dryRun : Bool)
  /-- Write default settings, perhaps over others. -/
  | init (force : Bool)
deriving DecidableEq

/-- What a command line asks for. -/
structure Invocation where
  /-- The file with the settings. -/
  settingsPath : String
  /-- The file with the governance, instead of the one in the settings. -/
  statePath : Option String
  /-- On whose behalf, instead of the first admin. -/
  caller : Option Address
  /-- The filter of what is logged, instead of the one in the settings. -/
  logLevel : Option String
  /-- Whether to log in JSON, whatever the settings say. -/
  jsonLogs : Bool
  /-- What to do. -/
  command : Command
deriving DecidableEq

namespace Invocation

/-! ## Options -/

/-- The options there are. -/
inductive Flag where
  /-- The file with the settings. -/
  | config
  /-- The file with the governance. -/
  | state
  /-- On whose behalf. -/
  | caller
  /-- The filter of what is logged. -/
  | logLevel
  /-- Log in JSON. -/
  | jsonLogs
  /-- The number of instructions. -/
  | count
  /-- The chain a batch is meant for. -/
  | chain
  /-- Forward the batch, and how. -/
  | forward
  /-- Forbid. -/
  | deny
  /-- The account that gives. -/
  | old
  /-- The account that takes. -/
  | new
  /-- The roles handed over. -/
  | roles
  /-- All steps together. -/
  | atomic
  /-- Change nothing. -/
  | dryRun
  /-- Overwrite. -/
  | force
deriving DecidableEq, Repr

/-- How an option is written behind two dashes. -/
def Flag.word : Flag → String
  | .config => "config"
  | .state => "state"
  | .caller => "caller"
  | .logLevel => "log-level"
  | .jsonLogs => "json-logs"
  | .count => "count"
  | .chain => "chain-id"
  | .forward => "forward"
  | .deny => "deny"
  | .old => "old"
  | .new => "new"
  | .roles => "roles"
  | .atomic => "atomic"
  | .dryRun => "dry-run"
  | .force => "force"

/-- How an option is written behind one dash. -/
def Flag.letter? : Flag → Option Char
  | .config => some 'c'
  | .logLevel => some 'l'
  | _ => none

/-- Whether an option has a value. -/
def Flag.takesValue : Flag → Bool
  | .jsonLogs => false
  | .deny => false
  | .atomic => false
  | .dryRun => false
  | .force => false
  | _ => true

/-- The options that stand anywhere. -/
def globalFlags : List Flag := [.config, .state, .caller, .logLevel, .jsonLogs]

/-! ## Words -/

/-- What the words of one level of commands give. -/
structure Level where
  /-- The options with their values, which are empty for options without. -/
  options : List (Flag × String)
  /-- The other words. -/
  operands : List String
deriving DecidableEq, Repr

namespace Level

/-- The level of which nothing is read. -/
def empty : Level := ⟨[], []⟩

/-- The level with one more option, unless it is given already and may not be repeated. -/
def addOption (level : Level) (flag : Flag) (value : String) : Option Level :=
  if flag ≠ .roles ∧ level.options.any (fun option => option.1 = flag) then none
  else some { level with options := level.options ++ [(flag, value)] }

/-- The level with one more word. -/
def addOperand (level : Level) (word : String) : Level :=
  { level with operands := level.operands ++ [word] }

/-- The value of an option, if it is given. -/
def value? (level : Level) (flag : Flag) : Option String := level.options.lookup flag

/-- The values of an option that may be repeated. -/
def values (level : Level) (flag : Flag) : List String :=
  (level.options.filter fun option => option.1 = flag).map Prod.snd

/-- Whether an option is given. -/
def has (level : Level) (flag : Flag) : Bool := (level.value? flag).isSome

end Level

/-- Whether a word is an option or the mark that there are no more. -/
def isOption (word : String) : Bool :=
  match word.toList with
  | '-' :: _ :: _ => true
  | _ => false

/-- An option at the front of a word: which one, and the value in the same word. -/
def optionOf? (flags : List Flag) (word : List Char) : Option (Flag × Option String) :=
  match word with
  | '-' :: '-' :: name =>
    let spelled := name.takeWhile (· ≠ '=')
    let value := match name.drop spelled.length with
      | '=' :: value => some (String.ofList value)
      | _ => none
    match flags.find? fun flag => flag.word.toList = spelled with
    | none => none
    | some flag => if value.isSome && !flag.takesValue then none else some (flag, value)
  | '-' :: letter :: value =>
    let value := match value with
      | [] => none
      | '=' :: value => some (String.ofList value)
      | value => some (String.ofList value)
    match flags.find? fun flag => flag.letter? = some letter with
    | none => none
    | some flag => some (flag, value)
  | _ => none

/-- Read the words of a level. On a level that names a command, the first word that is no option is
that name, and the words from there on are left over. -/
def readWords (flags : List Flag) (isOuter : Bool) (level : Level) :
    List String → Option (Level × List String)
  | [] => some (level, [])
  | word :: rest =>
    if word = "--" then
      if isOuter then none else some (rest.foldl Level.addOperand level, [])
    else if isOption word then
      match optionOf? flags word.toList with
      | none => none
      | some (flag, some value) =>
        match level.addOption flag value with
        | none => none
        | some level => readWords flags isOuter level rest
      | some (flag, none) =>
        if flag.takesValue then
          match rest with
          | [] => none
          | value :: rest =>
            if isOption value then none
            else
              match level.addOption flag value with
              | none => none
              | some level => readWords flags isOuter level rest
        else
          match level.addOption flag "" with
          | none => none
          | some level => readWords flags isOuter level rest
    else if isOuter then some (level, word :: rest)
    else readWords flags isOuter (level.addOperand word) rest

/-! ## Values -/

/-- Read a number below a bound, in digits behind an optional plus sign. -/
def readNumber (bound : Nat) (text : String) : Option Nat :=
  let digits := match text.toList with
    | '+' :: digits => digits
    | digits => digits
  if digits.isEmpty || !digits.all Char.isDigit then none
  else
    let number := digits.foldl (fun value c => value * 10 + (c.toNat - 48)) 0
    if number < bound then some number else none

/-- Read the number of a chain. -/
def readChain (text : String) : Option ChainId := (readNumber UInt64.size text).map UInt64.ofNat

/-- Read an address. -/
def readAddress (text : String) : Option Address := (Address.parse text).toOption

/-- Read a path, which is not empty. -/
def readPath (text : String) : Option String := if text.isEmpty then none else some text

/-- Read how to forward. -/
def readMode (text : String) : Option ForwardMode :=
  if text = ForwardMode.schedule.toText then some .schedule
  else if text = ForwardMode.execute.toText then some .execute
  else none

/-- Read roles between commas. -/
def readRoles (text : String) : Option (List Role) :=
  (Text.splitText ',' text).mapM fun name => (Role.parse name).toOption

/-- Read the value of an option that may be absent. -/
def optional {α : Type} (read : String → Option α) : Option String → Option (Option α)
  | none => some none
  | some text => (read text).map some

/-! ## Commands -/

/-- The names of commands, and of commands inside them. -/
inductive Verb where
  /-- Write a batch in the wire format. -/
  | encode
  /-- Read a batch from hexadecimal text. -/
  | decode
  /-- Tell a selector. -/
  | selector
  /-- Review a batch. -/
  | review
  /-- Give a chain its mediator. -/
  | mediatorSet
  /-- Tell or list mediators. -/
  | mediatorShow
  /-- Allow or forbid a call. -/
  | policySet
  /-- Tell whether a call is allowed. -/
  | policyCheck
  /-- List the allow-list. -/
  | policyList
  /-- Declare a bridge entrypoint. -/
  | route
  /-- Hand roles over. -/
  | transition
  /-- Write default settings. -/
  | init
deriving DecidableEq, Repr

/-- The options that stand only behind a command. -/
def Verb.flags : Verb → List Flag
  | .decode => [.count]
  | .review => [.chain, .forward]
  | .policySet => [.deny]
  | .transition => [.old, .new, .roles, .atomic, .dryRun]
  | .init => [.force]
  | _ => []

/-- What a name on the outer level means: a command, or commands with their names. -/
def outerVerb? (word : String) : Option (Verb ⊕ List (String × Verb)) :=
  match word with
  | "encode" => some (.inl .encode)
  | "decode" => some (.inl .decode)
  | "selector" => some (.inl .selector)
  | "review" => some (.inl .review)
  | "mediator" => some (.inr [("set", .mediatorSet), ("show", .mediatorShow)])
  | "policy" => some (.inr [("set", .policySet), ("check", .policyCheck), ("list", .policyList)])
  | "route" => some (.inl .route)
  | "transition" => some (.inl .transition)
  | "init" => some (.inl .init)
  | _ => none

/-- The roles of a handover: those given, or all. -/
def rolesOf (values : List String) : Option (List Role) :=
  if values.isEmpty then some Role.all else (values.mapM readRoles).map List.flatten

/-- The command of a verb with its options and operands. -/
def Verb.command? (verb : Verb) (level : Level) : Option Command := do
  match verb, level.operands with
  | .encode, [file] => return .encode (← readPath file)
  | .decode, [hex] =>
    return .decode hex (← optional (readNumber UInt64.size) (level.value? .count))
  | .selector, [signature] => return .selector signature
  | .review, [file] =>
    return .review (← readPath file) (← optional readChain (level.value? .chain))
      (← optional readMode (level.value? .forward))
  | .mediatorSet, [chain, mediator] =>
    return .setMediator (← readChain chain) (← readAddress mediator)
  | .mediatorShow, [chain] => return .showMediator (← readChain chain)
  | .mediatorShow, [] => return .listMediators
  | .policySet, [target, function, chain] =>
    return .setPolicy (← readAddress target) function (← readChain chain) (!level.has .deny)
  | .policyCheck, [target, function, chain] =>
    return .checkPolicy (← readAddress target) function (← readChain chain)
  | .policyList, [] => return .listPolicies
  | .route, [entrypoint, destination] =>
    return .route (← readAddress entrypoint) (← readChain destination)
  | .transition, [] =>
    return .transition (← readAddress (← level.value? .old)) (← readAddress (← level.value? .new))
      (← rolesOf (level.values .roles)) (level.has .atomic) (level.has .dryRun)
  | .init, [] => return .init (level.has .force)
  | _, _ => none

/-- Whether the value of an option that stands anywhere can be read. -/
def isReadable (option : Flag × String) : Bool :=
  match option.1 with
  | .config => !option.2.isEmpty
  | .state => !option.2.isEmpty
  | .caller => (readAddress option.2).isSome
  | _ => true

/-- The invocation of a verb, its level and the options of the levels around, the inner ones
first. -/
def ofLevels? (settingsPath : String) (verb : Verb) (level : Level)
    (outer : List (Flag × String)) : Option Invocation := do
  let command ← verb.command? level
  let options := level.options ++ outer
  let path ← readPath ((options.lookup .config).getD settingsPath)
  if options.all isReadable then
    return {
      settingsPath := path
      statePath := options.lookup .state
      caller := (options.lookup .caller).bind readAddress
      logLevel := options.lookup .logLevel
      jsonLogs := (options.lookup .jsonLogs).isSome
      command := command }
  else none

/-- Read the words behind the name of a command. -/
def readVerb (settingsPath : String) (verb : Verb) (outer : List (Flag × String))
    (words : List String) : Option Invocation := do
  let (level, _) ← readWords (globalFlags ++ verb.flags) false Level.empty words
  ofLevels? settingsPath verb level outer

/-- Read the words of a command line. The settings are in the given file unless an option says
otherwise. -/
def parse (settingsPath : String) (words : List String) : Option Invocation := do
  let (level, words) ← readWords globalFlags true Level.empty words
  match words with
  | [] => none
  | word :: words =>
    match ← outerVerb? word with
    | .inl verb => readVerb settingsPath verb level.options words
    | .inr verbs =>
      let (inner, words) ← readWords globalFlags true Level.empty words
      match words with
      | [] => none
      | word :: words =>
        readVerb settingsPath (← verbs.lookup word) (inner.options ++ level.options) words

end Invocation

end GovernanceRelay
