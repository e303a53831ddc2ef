import ConnLease.LeaseConfig.Basic
import ConnLease.LogEvent
import ConnLease.Text.Blank
import ConnLease.Text.LowerCase
import ConnLease.Text.Split

/-!
# Configurations as text

A configuration text is a list of options `key=value` between semicolons. Blanks around options,
keys and values do not count, keys are read in any letter case, and a blank option is skipped. An
option given twice takes its last value. Unknown keys are logged and ignored. The whole
configuration is validated at the end.
-/

namespace ConnLease

namespace LeaseConfig

/-- An option that has been read. -/
inductive Setting where
  /-- Milliseconds; zero turns leak detection off. -/
  | threshold (millis : Nat)
  | capacity (n : Nat)
  | fatalStates (codes : List String)
  | unknown (key value : String)
deriving Repr, DecidableEq

/-- The options that a text can set. -/
inductive OptionKey where
  | threshold
  | capacity
  | fatalStates
deriving Repr, DecidableEq

/-- The option with a given lower-case key; each has two spellings. -/
def OptionKey.ofText? (key : String) : Option OptionKey :=
  if key = "leakdetectionthreshold" ∨ key = "leak detection threshold" then some .threshold
  else if key = "statementcapacity" ∨ key = "statement capacity" then some .capacity
  else if key = "fatalsqlstates" ∨ key = "fatal sql states" then some .fatalStates
  else none

/-- The codes of a list with commas, without blanks around them and without empty items. -/
def readCodes (value : List Char) : List String :=
  (((Text.splitOn ',' value).map Text.trim).filter (!·.isEmpty)).map String.ofList

/-- Read a value under its lower-case key. -/
def readSetting (key value : List Char) : Except ConfigError Setting :=
  match OptionKey.ofText? (String.ofList key) with
  | some .threshold =>
    match Text.readUnsigned value with
    | some millis => .ok (.threshold millis)
    | none => .error (.badThreshold (String.ofList value))
  | some .capacity =>
    match Text.readUnsigned value with
    | some n => .ok (.capacity n)
    | none => .error (.badCapacity (String.ofList value))
  | some .fatalStates => .ok (.fatalStates (readCodes value))
  | none => .ok (.unknown (String.ofList key) (String.ofList value))

/-- Read one option; `none` if there is nothing but blanks. -/
def readOption (part : List Char) : Except ConfigError (Option Setting) :=
  let part := Text.trim part
  if part.isEmpty then .ok none
  else
    match Text.splitFirst '=' part with
    | none => .error (.missingValue (String.ofList part))
    | some (key, value) =>
      (readSetting (Text.lowerCase (Text.trim key)) (Text.trim value)).map some

def apply (config : LeaseConfig) : Setting → LeaseConfig
  | .threshold millis =>
    { config with leakThreshold := if millis = 0 then none else some (.ofMillis millis) }
  | .capacity n => { config with statementCapacity := n }
  | .fatalStates codes => { config with extraFatalStates := codes }
  | .unknown .. => config

/-- The event that a setting leaves in the log. -/
def Setting.events : Setting → List LogEvent
  | .unknown key value => [.ignoredOption key value]
  | _ => []

/-- The settings of a text in order, up to the first option that cannot be read. -/
def readSettings : List (List Char) → List Setting × Option ConfigError
  | [] => ([], none)
  | part :: parts =>
    match readOption part with
    | .error e => ([], some e)
    | .ok none => readSettings parts
    | .ok (some setting) =>
      let (settings, error) := readSettings parts
      (setting :: settings, error)

/-- Read a configuration text. The first option that cannot be read decides the error; a text whose
options can all be read is refused if the configuration it makes is not valid. -/
def parse (text : String) : Except ConfigError LeaseConfig :=
  match readSettings (Text.splitOn ';' text.toList) with
  | (_, some e) => .error e
  | (settings, none) =>
    let config := settings.foldl apply {}
    config.validate.map fun _ => config

/-- The events that reading a text logs. -/
def parseEvents (text : String) : List LogEvent :=
  (readSettings (Text.splitOn ';' text.toList)).1.flatMap Setting.events

end LeaseConfig

end ConnLease
