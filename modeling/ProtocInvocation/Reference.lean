import ProtocInvocation.Fault
import ProtocInvocation.Text.Blank
import ProtocInvocation.Text.Cut

/-!
# References to argument files

A positional argument that begins with the sigil refers to a file of arguments, which has one
argument a line.
-/

namespace ProtocInvocation

/-- What marks a reference to an argument file. -/
def sigil : Char := '@'

/-- The path that a positional argument refers to, if it is a reference. -/
def reference? (argument : String) : Option String :=
  Text.dropLead? (String.singleton sigil) argument

/-- The arguments in the text of an argument file: its lines without the blanks at their ends, less
those that hold nothing else. -/
def argumentLines (text : String) : List String :=
  ((Text.pieces '\n' text).map Text.trim).filter (· ≠ "")

/-- The arguments in the file at `path`. -/
def readArgumentFile (files : FileSystem) (path : String) : Except Fault (List String) :=
  match files.read path with
  | .ok text => .ok (argumentLines text)
  | .error cause => .error (.argumentFile path cause)

end ProtocInvocation
