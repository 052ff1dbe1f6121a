import RegistryOperator.Config.Number
import RegistryOperator.Resource.ImageRegistry
import RegistryOperator.Time.Duration

/-! The settings of the operator and how they are read from environment variables. A variable
belongs to the operator if its name starts with `REGOP_`; what is left of the name after every such
start is taken away names the setting, in either case of letters. -/

namespace RegistryOperator

/-- How fast failed work is tried again. -/
structure BackoffSettings where
  /-- The delay after the first failure of an item; it doubles with each further one. -/
  baseDelay : Duration
  /-- The longest delay. -/
  maxDelay : Duration
  /-- How many retries a second all items together get. -/
  qps : Float
  /-- How many retries may be ahead of that. -/
  burst : Nat

namespace BackoffSettings

def standard : BackoffSettings := ⟨.ofMillis 5, .ofSeconds 1000, 10, 100⟩

def text (s : BackoffSettings) : String :=
  s!"RateLimiterSettings \x7b base_delay: {s.baseDelay.text}, max_delay: {s.maxDelay.text}, " ++
    s!"qps: {(Number.double s.qps.toBits).text}, burst: {s.burst} \x7d"

end BackoffSettings

/-- The settings of the operator. -/
structure OperatorConfig where
  ns : String := "image-registry"
  resyncPeriodSecs : Nat := 600
  baseDelayMs : Nat := 5
  maxDelaySecs : Nat := 1000
  qps : Float := 10
  burst : Nat := 100
  registryImage : String := "docker.io/library/registry:2"
  bootstrapStorage : Option String := none

/-- The names of the settings. -/
inductive Setting
  | namespaceName
  | resyncPeriodSecs
  | baseDelayMs
  | maxDelaySecs
  | qps
  | burst
  | registryImage
  | bootstrapStorage
deriving DecidableEq, Repr

namespace Setting

def name : Setting → String
  | .namespaceName => "namespace"
  | .resyncPeriodSecs => "resync_period_secs"
  | .baseDelayMs => "base_delay_ms"
  | .maxDelaySecs => "max_delay_secs"
  | .qps => "qps"
  | .burst => "burst"
  | .registryImage => "registry_image"
  | .bootstrapStorage => "bootstrap_storage"

def all : List Setting :=
  [.namespaceName, .resyncPeriodSecs, .baseDelayMs, .maxDelaySecs, .qps, .burst, .registryImage,
    .bootstrapStorage]

def ofName? (s : String) : Option Setting := all.find? (·.name = s)

end Setting

/-- Why the settings cannot be read. -/
inductive ConfigError
  | repeated (setting : Setting)
  /-- A value is not a number; the variable is named without its start. -/
  | number (fault : Config.NumberFault) (value variableName : String)
  | zero (variableName : String)
  | bootstrapStorage (value : String)
deriving DecidableEq, Repr

namespace Config

/-- How the names of the operator's variables start. -/
def start : List Char := ['R', 'E', 'G', 'O', 'P', '_']

/-- Takes `start` away as often as the name begins with it. -/
def trimStart : Nat → List Char → List Char
  | 0, cs => cs
  | n + 1, cs => if start.isPrefixOf cs then trimStart n (cs.drop start.length) else cs

/-- The part of a variable's name that names the setting, if it is one of the operator's
variables. -/
def ownName? (variableName : String) : Option String :=
  let cs := variableName.toList
  if start.isPrefixOf cs then some (String.ofList (trimStart cs.length cs)) else none

/-- The letters of ASCII in lower case. Names of settings have no others, and no other letter has
one of these as its lower case here. -/
def lower (s : String) : String := String.ofList (s.toList.map Char.toLower)

/-- The settings found so far. -/
structure Found where
  ns : Option String := none
  resyncPeriodSecs : Option Nat := none
  baseDelayMs : Option Nat := none
  maxDelaySecs : Option Nat := none
  qps : Option Float := none
  burst : Option Nat := none
  registryImage : Option String := none
  bootstrapStorage : Option String := none

namespace Found

def has (f : Found) : Setting → Bool
  | .namespaceName => f.ns.isSome
  | .resyncPeriodSecs => f.resyncPeriodSecs.isSome
  | .baseDelayMs => f.baseDelayMs.isSome
  | .maxDelaySecs => f.maxDelaySecs.isSome
  | .qps => f.qps.isSome
  | .burst => f.burst.isSome
  | .registryImage => f.registryImage.isSome
  | .bootstrapStorage => f.bootstrapStorage.isSome

def add (f : Found) (setting : Setting) (value : String) : Except NumberFault Found :=
  match setting with
  | .namespaceName => .ok { f with ns := some value }
  | .resyncPeriodSecs =>
    (readWhole (2 ^ (64 : Nat)) value).map fun n => { f with resyncPeriodSecs := some n }
  | .baseDelayMs => (readWhole (2 ^ (64 : Nat)) value).map fun n => { f with baseDelayMs := some n }
  | .maxDelaySecs =>
    (readWhole (2 ^ (64 : Nat)) value).map fun n => { f with maxDelaySecs := some n }
  | .qps => (readDecimal value).map fun x => { f with qps := some x }
  | .burst => (readWhole (2 ^ (32 : Nat)) value).map fun n => { f with burst := some n }
  | .registryImage => .ok { f with registryImage := some value }
  | .bootstrapStorage => .ok { f with bootstrapStorage := some value }

/-- The settings, those not found having their defaults. -/
def complete (f : Found) : OperatorConfig :=
  let d : OperatorConfig := {}
  { ns := f.ns.getD d.ns
    resyncPeriodSecs := f.resyncPeriodSecs.getD d.resyncPeriodSecs
    baseDelayMs := f.baseDelayMs.getD d.baseDelayMs
    maxDelaySecs := f.maxDelaySecs.getD d.maxDelaySecs
    qps := f.qps.getD d.qps
    burst := f.burst.getD d.burst
    registryImage := f.registryImage.getD d.registryImage
    bootstrapStorage := f.bootstrapStorage }

end Found

/-- The setting that a variable gives, with the name it is given under. -/
def settingOf? (variableName : String) : Option (Setting × String) := do
  let own ← ownName? variableName
  let setting ← Setting.ofName? (lower own)
  return (setting, own)

/-- Reads variables in their order. The first fault counts; a setting may be given once. -/
def read (f : Found) : List (String × String) → Except ConfigError Found
  | [] => .ok f
  | (variableName, value) :: rest =>
    match settingOf? variableName with
    | none => read f rest
    | some (setting, own) =>
      if f.has setting then .error (.repeated setting)
      else
        match f.add setting value with
        | .ok f => read f rest
        | .error fault => .error (.number fault value own)

end Config

namespace ConfigError

def kind : ConfigError → String
  | .repeated .. => "Parse"
  | .number .. => "Parse"
  | .zero .. => "Zero"
  | .bootstrapStorage .. => "BootstrapStorage"

def message : ConfigError → String
  | .repeated setting =>
    s!"Unable to parse REGOP_* environment variables: duplicate field \x60{setting.name}\x60"
  | .number fault value variableName =>
    s!"Unable to parse REGOP_* environment variables: {fault.message} while parsing value " ++
      s!"'{value}' provided by {variableName}"
  | .zero variableName => s!"REGOP_{variableName} must be greater than zero"
  | .bootstrapStorage value =>
    s!"Unsupported bootstrap storage '{value}', the only supported value is 'emptyDir'"

end ConfigError

namespace OperatorConfig

/-- Accepts settings whose periods are not zero. -/
def validated (c : OperatorConfig) : Except ConfigError OperatorConfig :=
  if c.resyncPeriodSecs = 0 then .error (.zero "RESYNC_PERIOD_SECS")
  else if c.maxDelaySecs = 0 then .error (.zero "MAX_DELAY_SECS")
  else .ok c

/-- Reads the settings from environment variables. -/
def ofVariables (vars : List (String × String)) : Except ConfigError OperatorConfig :=
  match Config.read {} vars with
  | .error e => .error e
  | .ok found => found.complete.validated

def resyncPeriod (c : OperatorConfig) : Duration := .ofSeconds c.resyncPeriodSecs

/-- How fast failed passes are tried again. -/
def backoff (c : OperatorConfig) : BackoffSettings :=
  ⟨.ofMillis c.baseDelayMs, .ofSeconds c.maxDelaySecs, c.qps, c.burst⟩

/-- The spec of the registry that the operator creates. -/
def bootstrapSpec (c : OperatorConfig) : Except ConfigError RegistrySpec :=
  match c.bootstrapStorage with
  | none => .ok {}
  | some value =>
    if value = "" then .ok {}
    else if value = "emptyDir" then .ok { storage := { emptyDir := some {} } }
    else .error (.bootstrapStorage value)

/-- Equality of settings; rates are compared as numbers. -/
def same (a b : OperatorConfig) : Bool :=
  a.ns = b.ns && a.resyncPeriodSecs = b.resyncPeriodSecs && a.baseDelayMs = b.baseDelayMs &&
    a.maxDelaySecs = b.maxDelaySecs && a.qps == b.qps && a.burst = b.burst &&
    a.registryImage = b.registryImage && a.bootstrapStorage = b.bootstrapStorage

end OperatorConfig
end RegistryOperator
