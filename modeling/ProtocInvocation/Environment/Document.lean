import ProtocInvocation.Environment.Basic
import ProtocInvocation.Json

/-!
# The printed environment

How an environment is handed on: as a document with its parts in a fixed order and its plugins by
name. A missing output is null; missing options and a missing path are left out.
-/

namespace ProtocInvocation

/-- An entry as a document. -/
def PluginEntry.toJson (entry : PluginEntry) : Json :=
  .object ([("out", .text entry.out)] ++ (entry.opt.map fun s => ("opt", Json.text s)).toList ++
    (entry.path.map fun s => ("path", Json.text s)).toList)

/-- A plugin table as a document. -/
def PluginTable.toJson (table : PluginTable) : Json :=
  .object (table.entries.map fun (plugin, entry) => (plugin, entry.toJson))

namespace Environment

/-- An environment as a document. -/
def toJson (env : Environment) : Json :=
  .object [
    ("include_dir_paths", .texts env.includeDirPaths),
    ("include_imports", .bool env.includeImports),
    ("include_source_info", .bool env.includeSourceInfo),
    ("print_free_field_numbers", .bool env.printFreeFieldNumbers),
    ("output", .text? env.output),
    ("error_format", .text env.errorFormat.name),
    ("plugins", env.plugins.toJson),
    ("file_paths", .texts env.filePaths)]

/-- The text that is printed for an environment. -/
def print (env : Environment) : String :=
  env.toJson.render ++ "\n"

end Environment

end ProtocInvocation
