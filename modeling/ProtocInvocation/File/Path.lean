import ProtocInvocation.Text.Cut

/-!
# Paths

The names in a path, and the last of them.
-/

namespace ProtocInvocation.Path

/-- The names in `path` that lead somewhere: not the empty ones that come of repeated or trailing
slashes, and not the single dot. -/
def names (path : String) : List String :=
  (Text.pieces '/' path).filter fun name => name ≠ "" ∧ name ≠ "."

/-- The last name in `path`, unless there is none or it leads back to the directory above. -/
def baseName? (path : String) : Option String :=
  (names path).getLast?.filter (· ≠ "..")

end ProtocInvocation.Path
