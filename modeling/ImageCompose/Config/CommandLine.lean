import ImageCompose.Config.Basic
import ImageCompose.Text.Basic

/-!
# Settings from the command line and the environment

Each setting has an option, written `--name value` or `--name=value`, and a variable of the
environment; one more option, without a value, allows images to be kept on the worker server.
`Config.ofCommandLine` reads the command line first, then the environment for the settings that it
does not give; what neither gives has a default.

The value of an option that stands in an argument of its own is looked at only once the next option
or the end of the command line is met, so that of two faults the later one may be reported.
-/

namespace ImageCompose.Config

/-- Why a command line cannot be used. -/
inductive ArgumentFault
  /-- There is no such option, or a value belongs to none. -/
  | unknownArgument
  | invalidValue
  /-- A value is none for its setting. -/
  | valueValidation
  /-- An option that takes no value is given one. -/
  | tooManyValues
  | argumentConflict
  | displayHelp
  deriving DecidableEq

namespace ArgumentFault

/-- The name of a fault. -/
def name : ArgumentFault → String
  | .unknownArgument => "UnknownArgument"
  | .invalidValue => "InvalidValue"
  | .valueValidation => "ValueValidation"
  | .tooManyValues => "TooManyValues"
  | .argumentConflict => "ArgumentConflict"
  | .displayHelp => "DisplayHelp"

end ArgumentFault

/-- A setting that takes a value. -/
inductive Setting
  | databaseUrl
  | dbMaxConnections
  | bindAddr
  | distributions
  deriving DecidableEq

namespace Setting

/-- All settings that take a value. -/
def all : List Setting := [.databaseUrl, .dbMaxConnections, .bindAddr, .distributions]

/-- The name of the option. -/
def option : Setting → String
  | .databaseUrl => "database-url"
  | .dbMaxConnections => "db-max-connections"
  | .bindAddr => "bind-addr"
  | .distributions => "distributions"

/-- The variable of the environment. -/
def environmentVariable : Setting → String
  | .databaseUrl => "DATABASE_URL"
  | .dbMaxConnections => "COMPOSER_DB_MAX_CONNECTIONS"
  | .bindAddr => "COMPOSER_BIND_ADDR"
  | .distributions => "COMPOSER_DISTRIBUTIONS"

/-- The setting of an option. -/
def ofOption? (name : String) : Option Setting :=
  all.find? fun s => s.option == name

end Setting

/-- The name of the option that allows images to be kept on the worker server. -/
def localSaveOption : String := "local-save"

/-- The distributions of a service that none are configured for. -/
def defaultDistributions : List String :=
  ["rhel-8", "rhel-9", "centos-9", "fedora-39", "fedora-40"]

/-- The settings given so far. -/
structure Given where
  databaseUrl : Option String := none
  dbMaxConnections : Option UInt32 := none
  bindAddr : Option String := none
  distributions : Option (List String) := none
  /-- Whether images may be kept on the worker server. -/
  localSave : Bool := false

namespace Given

/-- Whether a setting is given. -/
def has (g : Given) : Setting → Bool
  | .databaseUrl => g.databaseUrl.isSome
  | .dbMaxConnections => g.dbMaxConnections.isSome
  | .bindAddr => g.bindAddr.isSome
  | .distributions => g.distributions.isSome

/-- A number of connections: a whole number of 32 bits, with an optional sign. -/
def connections? (text : String) : Option UInt32 :=
  match Text.signed? text with
  | some n => if 0 ≤ n ∧ n < 4294967296 then some (UInt32.ofNat n.toNat) else none
  | none => none

/-- Gives a setting. Distributions add up, and a value lists several with commas between them. All
other settings are given once. -/
def give (g : Given) (s : Setting) (text : String) : Except ArgumentFault Given :=
  if s ≠ .distributions ∧ g.has s then .error .argumentConflict
  else match s with
    | .databaseUrl => .ok { g with databaseUrl := some text }
    | .dbMaxConnections =>
      match connections? text with
      | some n => .ok { g with dbMaxConnections := some n }
      | none => .error .valueValidation
    | .bindAddr => .ok { g with bindAddr := some text }
    | .distributions =>
      .ok { g with distributions := some (g.distributions.getD [] ++ text.splitOn ",") }

/-- Gives the settings that are not given yet from the environment. -/
def giveEnvironment (g : Given) (environment : String → Option String) :
    Except ArgumentFault Given :=
  Setting.all.foldlM
    (fun g s =>
      match environment s.environmentVariable with
      | some text => if g.has s then .ok g else g.give s text
      | none => .ok g)
    g

/-- The settings, with defaults for what is not given. -/
def config (g : Given) : Config where
  databaseUrl := g.databaseUrl
  dbMaxConnections := g.dbMaxConnections.getD 10
  bindAddr := g.bindAddr.getD "0.0.0.0:8080"
  distributions := g.distributions.getD defaultDistributions
  localSave := g.localSave

end Given

/-- A command line that is being read: what it gave, the last option whose value is still to be
looked at, and whether options have ended. -/
structure Reading where
  given : Given := {}
  /-- The last option, with the argument after it if there was one. -/
  pending : Option (Setting × Option String) := none
  ended : Bool := false

namespace Reading

/-- Gives the setting of the last option. -/
def settle (r : Reading) : Except ArgumentFault Reading :=
  match r.pending with
  | none => .ok r
  | some (_, none) => .error .invalidValue
  | some (s, some text) => do
    let given ← r.given.give s text
    return { r with given := given, pending := none }

/-- Reads an option, given by its name and the text after an equals sign. -/
def option (r : Reading) (name : String) (value : Option String) :
    Except ArgumentFault Reading :=
  match Setting.ofOption? name, value with
  | some s, none => do
    let r ← r.settle
    return { r with pending := some (s, none) }
  | some s, some text => do
    let r ← r.settle
    let given ← r.given.give s text
    return { r with given := given }
  | none, value =>
    if name = localSaveOption ∨ name = "help" then
      if value.isSome then .error .tooManyValues
      else do
        let r ← r.settle
        if name = "help" then .error .displayHelp
        else if r.given.localSave then .error .argumentConflict
        else return { r with given := { r.given with localSave := true } }
    else .error .unknownArgument

/-- Reads an argument. -/
def argument (r : Reading) (text : String) : Except ArgumentFault Reading :=
  match r.ended, text.toList with
  | false, ['-', '-'] => .ok { r with ended := true }
  | false, '-' :: '-' :: cs =>
    let name := cs.takeWhile (· ≠ '=')
    let value := match cs.dropWhile (· ≠ '=') with
      | _ :: rest => some (String.ofList rest)
      | [] => none
    r.option (String.ofList name) value
  | false, '-' :: 'h' :: _ => do
    let _ ← r.settle
    .error .displayHelp
  | false, '-' :: _ :: _ => .error .unknownArgument
  | false, _ =>
    match r.pending with
    | some (s, none) => .ok { r with pending := some (s, some text) }
    | _ => .error .unknownArgument
  | true, _ => .error .unknownArgument

end Reading

/-- Reads the settings from a command line and the environment. -/
def ofCommandLine (args : List String) (environment : String → Option String) :
    Except ArgumentFault Config := do
  let r ← args.foldlM Reading.argument {}
  let r ← r.settle
  let given ← r.given.giveEnvironment environment
  return given.config

/-- The settings of a service that is started: images may also be kept on the worker server if the
variable for that is present, whatever its value. -/
def load (args : List String) (environment : String → Option String) :
    Except ArgumentFault Config := do
  let config ← ofCommandLine args environment
  return { config with
    localSave := config.localSave || (environment localSaveVariable).isSome }

end ImageCompose.Config
