import BrokerWire.Number.Integer

namespace BrokerWire

structure Settings where
  host : String := "127.0.0.1"
  port : Nat := 4002
  clientId : Int32 := 0
  timeoutSeconds : Nat := 10
  connectOptions : String := ""
  positions : Bool := false
  accountSummary : Bool := false
  deriving DecidableEq

/-- Why there is no run: help was asked for, or an argument is wrong. -/
inductive NoRun where
  | help
  | wrong
  deriving DecidableEq

namespace Settings

/-- The options: five take a value, two take none. -/
inductive Key where
  | host
  | port
  | clientId
  | timeoutSeconds
  | connectOptions
  | positions
  | accountSummary
  deriving DecidableEq

namespace Key

def all : List Key :=
  [.host, .port, .clientId, .timeoutSeconds, .connectOptions, .positions, .accountSummary]

def argument : Key → String
  | .host => "--ib-host"
  | .port => "--ib-port"
  | .clientId => "--ib-client-id"
  | .timeoutSeconds => "--connect-timeout-secs"
  | .connectOptions => "--connect-options"
  | .positions => "--positions"
  | .accountSummary => "--account-summary"

def takesValue : Key → Bool
  | .positions => false
  | .accountSummary => false
  | _ => true

def environmentName? : Key → Option String
  | .host => some "IB_HOST"
  | .port => some "IB_PORT"
  | .clientId => some "IB_CLIENT_ID"
  | _ => none

def ofArgument? (text : String) : Option Key :=
  all.find? fun key => key.argument = text

end Key

/-- A number between bounds. -/
def bounded? (least greatest : Int) (text : String) : Option Int :=
  match Number.readInteger (Number.negatives 64) (Number.negatives 64 - 1) text.toList with
  | .ok n => if least ≤ n ∧ n ≤ greatest then some n else none
  | .error _ => none

def set? (s : Settings) (key : Key) (value : String) : Option Settings :=
  match key with
  | .host => some { s with host := value }
  | .port => (bounded? 0 65535 value).map fun n => { s with port := n.toNat }
  | .clientId =>
    (bounded? Int32.minValue.toInt Int32.maxValue.toInt value).map fun n =>
      { s with clientId := Int32.ofInt n }
  | .timeoutSeconds =>
    (Number.readNatural (Nat.pow 2 64 - 1) value.toList).toOption.map fun n =>
      { s with timeoutSeconds := n }
  | .connectOptions => some { s with connectOptions := value }
  | .positions => some { s with positions := true }
  | .accountSummary => some { s with accountSummary := true }

def cut (argument : String) : String × Option String :=
  let chars := argument.toList
  let name := String.ofList (chars.takeWhile (· ≠ '='))
  match chars.dropWhile (· ≠ '=') with
  | [] => (name, none)
  | _ :: value => (name, some (String.ofList value))

/-- Whether an argument can be the value of the option before it. -/
def isValue (argument : String) : Bool :=
  match argument.toList with
  | '-' :: _ :: _ => false
  | _ => true

def asksForHelp (argument : String) : Bool :=
  argument = "--help" || argument = "--version" ||
    match argument.toList with
    | '-' :: c :: _ => c = 'h' || c = 'V'
    | _ => false

/-- Reads the arguments onto the settings of those before them; an option is given at most once.
What is left tells which options were given. -/
def readArguments : (given : List Key) → Settings → List String →
    Except NoRun (List Key × Settings)
  | given, s, [] => .ok (given, s)
  | given, s, argument :: rest =>
    if asksForHelp argument then .error .help
    else if argument = "--" then if rest.isEmpty then .ok (given, s) else .error .wrong
    else
      let (name, value) := cut argument
      match Key.ofArgument? name with
      | none => .error .wrong
      | some key =>
        if given.contains key then .error .wrong
        else if key.takesValue then
          match value, rest with
          | some value, rest =>
            match s.set? key value with
            | some s => readArguments (key :: given) s rest
            | none => .error .wrong
          | none, [] => .error .wrong
          | none, value :: rest =>
            if isValue value then
              match s.set? key value with
              | some s => readArguments (key :: given) s rest
              | none => .error .wrong
            else .error .wrong
        else
          match value, s.set? key "" with
          | none, some s => readArguments (key :: given) s rest
          | _, _ => .error .wrong

def readVariable (given : List Key) (environment : String → Option String) (s : Settings)
    (key : Key) : Except NoRun Settings :=
  match key.environmentName?.bind environment with
  | none => .ok s
  | some value =>
    if given.contains key then .ok s
    else
      match s.set? key value with
      | some s => .ok s
      | none => .error .wrong

/-- The settings that arguments and environment give. Arguments win over the environment, and the
first one that is wrong or asks for help decides. -/
def read (arguments : List String) (environment : String → Option String) :
    Except NoRun Settings := do
  let (given, s) ← readArguments [] {} arguments
  Key.all.foldlM (readVariable given environment) s

end Settings

end BrokerWire
