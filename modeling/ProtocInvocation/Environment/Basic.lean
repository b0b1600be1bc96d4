import ProtocInvocation.Defaults
import ProtocInvocation.Expansion.Bound

/-!
# The resolved environment

What an accepted argument vector comes to: every setting has its value, every plugin has somewhere
to write, and there is something to compile. Checks come in a fixed order, and the first that fails
gives the fault.
-/

namespace ProtocInvocation

/-- A resolved command line. -/
structure Environment where
  includeDirPaths : List String
  includeImports : Bool
  includeSourceInfo : Bool
  printFreeFieldNumbers : Bool
  output : Option String
  errorFormat : ErrorFormat
  plugins : PluginTable
  /-- The files to compile, in the order in which they were met. -/
  filePaths : List String
  deriving DecidableEq, Repr

/-- The first unsupported flag, in the order of the registry, whose field is set. -/
def FlagRegistry.unsupported? (registry : FlagRegistry) (s : Settings) : Option UnsupportedFlag :=
  registry.findSome? fun flag => if s.isSet flag.field then flag.unsupported else none

/-- Refuses settings that an unsupported flag has left a trace in. -/
def checkSupported (registry : FlagRegistry) (s : Settings) : Except Fault Unit :=
  match registry.unsupported? s with
  | some flag => .error (.unsupportedFeature flag)
  | none => .ok ()

/-- Refuses a table with a plugin that has nowhere to write. -/
def checkActionable (table : PluginTable) : Except Fault Unit :=
  match table.inactionable? with
  | some fault => .error fault
  | none => .ok ()

namespace Environment

/-- Checks what an expansion gave and fills its gaps. -/
def ofExpansion (defaults : Defaults) (e : Expansion) (plugins : PluginTable) :
    Except Fault Environment := do
  checkSupported .builtin e.settings
  checkActionable plugins
  let errorFormat ← defaults.errorFormatOr e.settings.errorFormat
  if e.filePaths = [] then throw .noInputFiles
  return {
    includeDirPaths := defaults.includePathsOr e.settings.includeDirPaths
    includeImports := e.settings.includeImports
    includeSourceInfo := e.settings.includeSourceInfo
    printFreeFieldNumbers := e.settings.printFreeFieldNumbers
    output := if e.settings.output = "" then none else some e.settings.output
    errorFormat
    plugins
    filePaths := e.filePaths }

/-- The environment that the outcome of an expansion comes to. -/
def ofOutcome (defaults : Defaults) :
    Except Fault Expansion × ExpansionContext → Except Fault Environment
  | (.ok e, context) => ofExpansion defaults e context.plugins
  | (.error fault, _) => .error fault

/-- Resolves an argument vector whose argument files are in `store`. -/
def resolve (store : FileStore) (defaults : Defaults) (tokens : List String) :
    Except Fault Environment :=
  ofOutcome defaults (expand store .builtin tokens default)

end Environment

end ProtocInvocation
