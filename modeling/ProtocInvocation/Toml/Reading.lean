import ProtocInvocation.Text.Reading

/-!
# Lines of a configuration file

The characters that lines are made of, and what may stand between the signs of a configuration file:
space, comments and the ends of lines.
-/

namespace ProtocInvocation.Toml

open Text (Reader readMany)

/-- Whether a character may stand in a text or a comment: no control but the tab. -/
def isPlain (c : Char) : Bool :=
  c = '\t' || (' ' ≤ c && c ≠ '\x7f')

/-- Whether a character is space within a line. -/
def isSpace (c : Char) : Bool :=
  c = ' ' || c = '\t'

/-- Drops tabs and spaces. -/
def dropSpace (input : List Char) : List Char :=
  input.dropWhile isSpace

/-- Drops the end of a line. -/
def dropBreak? : List Char → Option (List Char)
  | '\n' :: rest => some rest
  | '\r' :: '\n' :: rest => some rest
  | _ => none

/-- Drops a comment up to the end of its line, or up to a character that no comment may hold. -/
def dropComment (input : List Char) : List Char :=
  match input with
  | '#' :: rest => rest.dropWhile isPlain
  | _ => input

/-- Drops the rest of a line in which nothing more may stand but space and a comment. -/
def dropLine? (input : List Char) : Option (List Char) :=
  match dropComment (dropSpace input) with
  | [] => some []
  | rest => dropBreak? rest

/-- Takes the rest of a line. -/
def readLine : Reader Unit := fun input =>
  (dropLine? input).map ((), ·)

/-- Drops space, comments and ends of lines, up to the next sign of anything else. -/
def dropFiller (input : List Char) : List Char :=
  dropSpace (readMany readLine input).2

end ProtocInvocation.Toml
