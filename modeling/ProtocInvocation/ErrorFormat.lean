/-!
# Error formats

The ways in which a compiler can report errors, and the names they go by.
-/

namespace ProtocInvocation

/-- How errors are reported. -/
inductive ErrorFormat where
  | text
  | json
  | msvs
  deriving DecidableEq, Repr

namespace ErrorFormat

/-- The name under which a format is reported. -/
def name : ErrorFormat → String
  | .text => "text"
  | .json => "json"
  | .msvs => "msvs"

/-- Every name that a format can be asked for by. -/
def names : List String :=
  ["text", "gcc", "json", "msvs"]

/-- The format asked for by `name`; the compiler's own format has two names. -/
def ofName? (name : String) : Option ErrorFormat :=
  if name = "text" ∨ name = "gcc" then some .text
  else if name = "json" then some .json
  else if name = "msvs" then some .msvs
  else none

theorem ofName?_name (format : ErrorFormat) : ofName? format.name = some format := by
  cases format <;> decide

theorem isSome_ofName?_iff {name : String} : (ofName? name).isSome ↔ name ∈ names := by
  grind [ofName?, names]

end ErrorFormat

end ProtocInvocation
