import ProtocInvocation.Text.Blank
import ProtocInvocation.Text.Reading

/-!
# Modes of patterns

Flags in a pattern decide how it is read from there on: whether its characters are those of all
scripts, whether letters match in either case, and whether blanks and comments are passed over.
-/

namespace ProtocInvocation.Log.Pattern

open Text (Reader readMany)

/-- How a pattern is read. -/
structure Mode where
  /-- The pattern is made of characters of all scripts. Otherwise it is made of bytes. -/
  unicode : Bool := true
  /-- Letters match in either case. -/
  caseless : Bool := false
  /-- Blanks and comments are passed over. -/
  spaced : Bool := false
  deriving DecidableEq, Repr

/-! ## Flags -/

/-- The flags that there are, and the sign that turns off those behind it. -/
def flagSigns : List Char :=
  ['-', 'R', 'U', 'i', 'm', 's', 'u', 'x']

/-- Whether flags are in order: none is repeated, and the sign that turns flags off stands before
some. -/
def areFlags (flags : List Char) : Bool :=
  flags.all flagSigns.contains && flags.eraseDups = flags && flags.getLast? ≠ some '-'

/-- What flags make of a switch. -/
def switched (flag : Char) (flags : List Char) (old : Bool) : Bool :=
  if flag ∈ flags then (flags.takeWhile (· ≠ '-')).contains flag else old

/-- The mode behind flags. Those that are not named stay as they are. -/
def Mode.set (mode : Mode) (flags : List Char) : Mode where
  unicode := switched 'u' flags mode.unicode
  caseless := switched 'i' flags mode.caseless
  spaced := switched 'x' flags mode.spaced

/-! ## Blanks -/

/-- Reads a blank, or a comment up to the end of its line. -/
def readBlank : Reader Unit
  | [] => none
  | '#' :: rest => some ((), rest.dropWhile (· ≠ '\n'))
  | c :: rest => if Text.isBlank c then some ((), rest) else none

/-- Drops what is passed over. -/
def Mode.skip (mode : Mode) (input : List Char) : List Char :=
  if mode.spaced then (readMany readBlank input).2 else input

/-- The next character, and in a spaced pattern the next one that is no blank. Here the sign of a
comment is passed over and the comment is not. -/
def Mode.peek? (mode : Mode) (input : List Char) : Option Char :=
  if mode.spaced then
    match input.dropWhile Text.isBlank with
    | '#' :: rest => (rest.dropWhile Text.isBlank).head?
    | rest => rest.head?
  else input.head?

end ProtocInvocation.Log.Pattern
