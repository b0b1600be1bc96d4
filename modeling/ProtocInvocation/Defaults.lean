import ProtocInvocation.Fault

/-!
# Defaults

What fills the gaps of a command line that gives no include path or no error format.
-/

namespace ProtocInvocation

/-- What the include paths and the error format are when none is given. -/
structure Defaults where
  includePaths : List String := ["."]
  errorFormat : String := "gcc"
  deriving DecidableEq, Repr, Inhabited

namespace Defaults

/-- The include paths given, or the default ones if none were given. -/
def includePathsOr (defaults : Defaults) (given : List String) : List String :=
  if given = [] then defaults.includePaths else given

/-- The error format of the name given, or of the default name if none was given. -/
def errorFormatOr (defaults : Defaults) (given : String) : Except Fault ErrorFormat :=
  let name := if given = "" then defaults.errorFormat else given
  match ErrorFormat.ofName? name with
  | some format => .ok format
  | none => .error (.invalidErrorFormat name)

end Defaults

end ProtocInvocation
