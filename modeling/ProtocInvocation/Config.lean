import ProtocInvocation.Environment.Basic
import ProtocInvocation.Toml.Document

/-!
# Configuration

The defaults that a configuration file sets. Every part of it may be left out and has its own
default then; keys that are not known are ignored; a value of the wrong type is a fault. A record
may also be written as an array of its values in order.
-/

namespace ProtocInvocation

/-- How much is logged. -/
structure Logging where
  level : String := "warn"
  deriving DecidableEq, Repr, Inhabited

/-- What a configuration file sets. -/
structure Config where
  defaults : Defaults := {}
  logging : Logging := {}
  deriving DecidableEq, Repr, Inhabited

/-- Why a configuration cannot be used. -/
inductive ConfigFault where
  | unreadable (path : String) (cause : ReadFault)
  | malformed (path : String)
  | noIncludePath
  | unknownErrorFormat (name : String)
  deriving DecidableEq, Repr

namespace ConfigFault

/-- The message of a fault. -/
def message : ConfigFault → String
  | unreadable path cause => "Failed to read config file '" ++ path ++ "': " ++ cause.message
  | malformed path => "Failed to parse config file '" ++ path ++ "'"
  | noIncludePath =>
    "Config validation failed: At least one default include path must be configured"
  | unknownErrorFormat name =>
    "Config validation failed: Default error format '" ++ name ++ "' is not one of " ++
      ", ".intercalate ErrorFormat.names

end ConfigFault

namespace Config

open Toml (Value Table)

/-! ## Values -/

/-- The text that a value is. -/
def text? : Value → Option String
  | .text s => some s
  | _ => none

/-- The texts that a value lists. -/
def texts? : Value → Option (List String)
  | .array items => items.mapM text?
  | _ => none

/-- The parts of a record by position: the values of `keys`, if it is a table, or its first values,
if it is a list. The other values of a table have to be readable, and those of a list are not read
at all. A date is a record without any of the keys. -/
def parts? (keys : List String) : Value → Option (List (Option Value))
  | .table _ entries =>
    if entries.all fun (key, value) => key ∈ keys ∨ value.isReadable then
      some (keys.map (entries.lookup ·))
    else none
  | .array items => some ((List.range keys.length).map (items[·]?))
  | .tables items => some ((List.range keys.length).map fun i => (items[i]?).map (.table .defined))
  | .scalar (.dateTime _) => some (keys.map fun _ => none)
  | .text _ | .scalar _ => none

/-- The part at `index`, or a default if it was left out. -/
def partOr {α : Type} (default : α) (read : Value → Option α) (parts : List (Option Value))
    (index : Nat) : Option α :=
  match parts[index]?.join with
  | some value => read value
  | none => some default

/-! ## Records -/

/-- Reads the defaults. -/
def defaults? (value : Value) : Option Defaults := do
  let parts ← parts? ["include_paths", "error_format"] value
  return {
    includePaths := ← partOr ["."] texts? parts 0
    errorFormat := ← partOr "gcc" text? parts 1 }

/-- Reads the logging settings. -/
def logging? (value : Value) : Option Logging := do
  let parts ← parts? ["level"] value
  return { level := ← partOr "warn" text? parts 0 }

/-- The configuration that a table describes. -/
def ofTable? (table : Table) : Option Config := do
  let parts ← parts? ["defaults", "logging"] (.table .defined table)
  return {
    defaults := ← partOr {} defaults? parts 0
    logging := ← partOr {} logging? parts 1 }

/-! ## Files -/

/-- Refuses a configuration without include paths or with an error format that there is not. -/
def validate (config : Config) : Except ConfigFault Unit :=
  if config.defaults.includePaths = [] then .error .noIncludePath
  else if (ErrorFormat.ofName? config.defaults.errorFormat).isNone then
    .error (.unknownErrorFormat config.defaults.errorFormat)
  else .ok ()

/-- Loads the configuration file at `path`, whose text `read?` makes sense of. Where nothing stands,
everything has its default. -/
def loadWith (read? : String → Option Config) (files : FileSystem) (path : String) :
    Except ConfigFault Config :=
  match files.read path with
  | .error cause => if cause.isPresent then .error (.unreadable path cause) else .ok {}
  | .ok text =>
    match read? text with
    | none => .error (.malformed path)
    | some config => config.validate.map fun _ => config

/-- The configuration that a text describes. -/
def ofText? (text : String) : Option Config :=
  (Table.ofText? text).bind ofTable?

/-- Loads the configuration file at `path`. -/
def load : FileSystem → String → Except ConfigFault Config :=
  loadWith ofText?

end Config

end ProtocInvocation
