import ProtocInvocation.Flag.Unsupported
import ProtocInvocation.Settings.Basic

/-!
# Built-in flags

What a flag is called, whether it takes a value, and which field it sets. The built-in flags stand
in a fixed order, which is the order in which unsupported ones are reported.
-/

namespace ProtocInvocation

/-- The long name of the flag for the descriptor set, which looks like a plugin directive and is
none. -/
def descriptorSetOut : String := "descriptor_set_out"

/-- Whether a flag takes a value. -/
inductive Arity where
  /-- The flag stands alone, or has a truth value after an equals sign. -/
  | noValue
  /-- The flag has a value, attached or in the next token. -/
  | requiresValue
  deriving DecidableEq, Repr

/-- The definition of a flag. -/
structure FlagDefinition where
  long : String
  short : Option Char
  arity : Arity
  unsupported : Option UnsupportedFlag
  field : Field
  description : String
  deriving DecidableEq, Repr

namespace FlagDefinition

/-- Whether `name` is the long name. -/
def matchesLong (flag : FlagDefinition) (name : String) : Bool :=
  flag.long = name

/-- Whether `letter` is the short name. -/
def matchesShort (flag : FlagDefinition) (letter : Char) : Bool :=
  flag.short = some letter

end FlagDefinition

/-- The flags that are known, in order. Of two flags with one name the first is meant. -/
abbrev FlagRegistry := List FlagDefinition

namespace FlagRegistry

/-- The flag with this long name. -/
def long? (registry : FlagRegistry) (name : String) : Option FlagDefinition :=
  registry.find? (·.matchesLong name)

/-- The flag with this short name. -/
def short? (registry : FlagRegistry) (letter : Char) : Option FlagDefinition :=
  registry.find? (·.matchesShort letter)

/-- The built-in flags: those that are supported, then those that are refused. -/
def builtin : FlagRegistry :=
  [ { long := "proto_path", short := some 'I', arity := .requiresValue, unsupported := none,
      field := .includeDirPaths, description := "The include directory paths" },
    { long := "include_imports", short := none, arity := .noValue, unsupported := none,
      field := .includeImports,
      description := "Include imports in the resulting FileDescriptorSet" },
    { long := "include_source_info", short := none, arity := .noValue, unsupported := none,
      field := .includeSourceInfo,
      description := "Include source info in the resulting FileDescriptorSet" },
    { long := "print_free_field_numbers", short := none, arity := .noValue, unsupported := none,
      field := .printFreeFieldNumbers,
      description := "Print the free field numbers of all messages" },
    { long := descriptorSetOut, short := some 'o', arity := .requiresValue, unsupported := none,
      field := .output, description := "The location to write the FileDescriptorSet" },
    { long := "error_format", short := none, arity := .requiresValue, unsupported := none,
      field := .errorFormat, description := "The error format to use" },
    { long := "plugin", short := none, arity := .requiresValue, unsupported := none,
      field := .pluginPathValues,
      description :=
        "Plugin executable, as path/to/protoc-gen-foo or protoc-gen-foo=path/to/binary" },
    { long := "encode", short := none, arity := .requiresValue, unsupported := some .encode,
      field := .encode, description := "Not supported" },
    { long := "decode", short := none, arity := .requiresValue, unsupported := some .decode,
      field := .decode, description := "Not supported" },
    { long := "decode_raw", short := none, arity := .noValue, unsupported := some .decodeRaw,
      field := .decodeRaw, description := "Not supported" },
    { long := "descriptor_set_in", short := none, arity := .requiresValue,
      unsupported := some .descriptorSetIn, field := .descriptorSetIn,
      description := "Not supported" } ]

end FlagRegistry

end ProtocInvocation
