import ProtocInvocation.Flag.Definition
import ProtocInvocation.Plugin.Directive
import ProtocInvocation.Text.Cut

/-!
# Names of long flags

A long name is either that of a built-in flag or that of a plugin directive, and its spelling alone
decides which. Hyphens and underscores are one in the name of a built-in flag; the name of a plugin
is taken as it stands.
-/

namespace ProtocInvocation

/-- What a long name stands for. -/
inductive FlagName where
  | directive (plugin : String) (kind : DirectiveKind)
  /-- A built-in flag, or none, by its name in underscores. -/
  | flag (canonical : String)
  deriving DecidableEq, Repr

namespace FlagName

/-- A name with underscores for its hyphens. -/
def canonical (name : String) : String :=
  String.ofList (name.toList.map fun c => if c = '-' then '_' else c)

/-- The plugin that `name` gives a directive of this kind, which must have a name of its own. -/
def plugin? (name : String) (kind : DirectiveKind) : Option String :=
  (Text.dropTail? kind.tail name).filter (· ≠ "")

/-- Reads a long name. The flag for the descriptor set is never a directive. -/
def ofName (name : String) : FlagName :=
  if canonical name = descriptorSetOut then .flag (canonical name)
  else
    match plugin? name .out with
    | some plugin => .directive plugin .out
    | none =>
      match plugin? name .opt with
      | some plugin => .directive plugin .opt
      | none => .flag (canonical name)

end FlagName

end ProtocInvocation
