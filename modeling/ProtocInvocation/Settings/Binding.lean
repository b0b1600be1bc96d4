import ProtocInvocation.Fault
import ProtocInvocation.Settings.Basic
import ProtocInvocation.Text.Cut

/-!
# Binding flags to settings

What an occurrence of a flag does to its field. A list takes up every part of a value between
commas, after what it holds; a truth value and a text keep the last value given. A flag that fails
leaves the settings as they were.
-/

namespace ProtocInvocation

/-- Reads a truth value: one of six words for yes and six for no. -/
def readBool? (value : String) : Option Bool :=
  if value ∈ ["1", "t", "T", "true", "TRUE", "True"] then some true
  else if value ∈ ["0", "f", "F", "false", "FALSE", "False"] then some false
  else none

/-- What a slot holds after an occurrence of `flag` with this value. -/
def Shape.receive (flag : String) :
    (shape : Shape) → Option String → shape.Value → Except Fault shape.Value
  | .list, some value, held => .ok (held ++ Text.pieces ',' value)
  | .flag, none, _ => .ok true
  | .flag, some value, _ =>
    match readBool? value with
    | some b => .ok b
    | none => .error (.invalidBool flag value)
  | .text, some value, _ => .ok value
  | .list, none, _ | .text, none, _ => .error (.missingValue flag)

namespace Settings

/-- The settings after an occurrence of `flag`, which sets `field`. -/
def bind (s : Settings) (field : Field) (flag : String) (value : Option String) :
    Except Fault Settings :=
  (field.shape.receive flag value (s.get field)).map (s.set field)

end Settings

end ProtocInvocation
