import ProtocInvocation.ErrorFormat
import ProtocInvocation.File.Store
import ProtocInvocation.Flag.Unsupported
import ProtocInvocation.Text.Quoted

/-!
# Faults

Why an argument vector is refused. Each fault is a cause with the names that its message needs; the
wording and the kind of a fault are functions of the cause.
-/

namespace ProtocInvocation

/-- What the name of every plugin's executable begins with. -/
def executableLead : String := "protoc-gen-"

/-- Why an argument vector is refused. -/
inductive Fault where
  /-- A positional argument is empty. -/
  | emptyArgument
  /-- An argument file is referenced although its path was referenced before. -/
  | recursiveReference (path : String)
  /-- An argument file gives no text. -/
  | argumentFile (path : String) (cause : ReadFault)
  /-- No flag has this name. -/
  | unknownFlag (flag : String)
  /-- The vector ends where the flag's value should stand. -/
  | missingValue (flag : String)
  /-- The value is not a truth value. -/
  | invalidBool (flag value : String)
  /-- The value of an output directive has more than one colon. -/
  | ambiguousOut (plugin value : String)
  /-- A plugin is told twice where to write. -/
  | duplicateOut (plugin : String)
  /-- A plugin is given options twice. -/
  | duplicateOpt (plugin : String)
  /-- A plugin's path is empty. -/
  | emptyPluginPath
  /-- The name of an executable is not that of a plugin. -/
  | notPluginName (name : String)
  /-- A plugin is given a path twice. -/
  | duplicatePluginPath (plugin : String)
  /-- A plugin has options and nowhere to write. -/
  | optWithoutOut (plugin : String)
  /-- A plugin has a path and nowhere to write. -/
  | pathWithoutOut (plugin : String)
  /-- A flag is understood and refused. -/
  | unsupportedFeature (flag : UnsupportedFlag)
  /-- No error format has this name. -/
  | invalidErrorFormat (value : String)
  /-- There is nothing to compile. -/
  | noInputFiles
  deriving DecidableEq, Repr

namespace Fault

/-- The word for the kind of a fault. -/
def kind : Fault → String
  | emptyArgument => "argument_format"
  | recursiveReference _ => "recursive_reference"
  | argumentFile .. => "argument_file_io"
  | unknownFlag _ => "unknown_flag"
  | missingValue _ => "missing_value"
  | invalidBool .. => "invalid_bool_value"
  | ambiguousOut .. => "ambiguous_out_syntax"
  | duplicateOut _ => "duplicate_out"
  | duplicateOpt _ => "duplicate_options"
  | emptyPluginPath => "empty_plugin_path"
  | notPluginName _ => "invalid_plugin_name_prefix"
  | duplicatePluginPath _ => "duplicate_plugin_path"
  | optWithoutOut _ => "opt_without_out"
  | pathWithoutOut _ => "path_without_out"
  | unsupportedFeature _ => "unsupported_feature"
  | invalidErrorFormat _ => "invalid_error_format"
  | noInputFiles => "no_input_files"

/-- The message of a fault. Values that were misread are quoted; names stand as they are. -/
def message : Fault → String
  | emptyArgument => "empty argument specified"
  | recursiveReference path => path ++ " recursively referenced"
  | argumentFile path cause => "open " ++ path ++ ": " ++ cause.message
  | unknownFlag flag => "unknown flag: " ++ flag
  | missingValue flag => "flag needs an argument: " ++ flag
  | invalidBool flag value =>
    "invalid argument " ++ Text.quoted value ++ " for " ++ flag ++ ": expected a boolean"
  | ambiguousOut plugin value =>
    "--" ++ plugin ++ "_out had multiple colons in " ++ Text.quoted value
  | duplicateOut plugin => "duplicate --" ++ plugin ++ "_out"
  | duplicateOpt plugin => "duplicate --" ++ plugin ++ "_opt"
  | emptyPluginPath => "--plugin had an empty value"
  | notPluginName name => "--plugin name must start with " ++ executableLead ++ ": " ++ name
  | duplicatePluginPath plugin => "duplicate --plugin for " ++ executableLead ++ plugin
  | optWithoutOut plugin => "cannot specify --" ++ plugin ++ "_opt without --" ++ plugin ++ "_out"
  | pathWithoutOut plugin =>
    "cannot specify --plugin=" ++ executableLead ++ plugin ++ " without --" ++ plugin ++ "_out"
  | unsupportedFeature flag => "--" ++ flag.name ++ " is not supported"
  | invalidErrorFormat value =>
    "invalid error format " ++ Text.quoted value ++ ": must be one of " ++
      ", ".intercalate ErrorFormat.names
  | noInputFiles => "no input files specified"

end Fault

end ProtocInvocation
