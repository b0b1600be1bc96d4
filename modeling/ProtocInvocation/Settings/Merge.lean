import ProtocInvocation.Settings.Basic

/-!
# Merging settings

How the settings of an argument file join those of the vector that refers to it. The shape of a
field decides the policy: lists are appended, truth values are joined by "or", and a text gives way
to a text that is not empty.
-/

namespace ProtocInvocation

/-- How two values of a shape become one. -/
inductive MergePolicy : Shape → Type where
  | append : MergePolicy .list
  | or : MergePolicy .flag
  | overrideNonEmpty : MergePolicy .text

namespace MergePolicy

variable {shape : Shape}

/-- The merge of a value with a later one. -/
def apply : MergePolicy shape → shape.Value → shape.Value → shape.Value
  | append, held, later => held ++ later
  | or, held, later => held || later
  | overrideNonEmpty, held, later => if later = "" then held else later

/-- The word for a policy. -/
def name : MergePolicy shape → String
  | append => "Append"
  | or => "Or"
  | overrideNonEmpty => "OverrideNonEmpty"

end MergePolicy

/-- The policy for values of a shape. -/
def Shape.mergePolicy : (shape : Shape) → MergePolicy shape
  | .list => .append
  | .flag => .or
  | .text => .overrideNonEmpty

/-- The policy for a field. -/
def Field.mergePolicy (field : Field) : MergePolicy field.shape :=
  field.shape.mergePolicy

namespace Settings

variable {s t : Settings} {f : Field}

/-- The settings `s` joined by the later settings `t`, field by field. -/
def merge (s t : Settings) : Settings :=
  ofSlots fun field => field.mergePolicy.apply (s.get field) (t.get field)

@[simp] theorem get_merge : (s.merge t).get f = f.mergePolicy.apply (s.get f) (t.get f) := by
  simp [merge]

end Settings

end ProtocInvocation
