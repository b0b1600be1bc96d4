import ProtocInvocation.Toml.Reading

/-!
# Texts of a configuration file

The four ways to write a text: between double quotes with escapes or between single quotes without,
and each of the two on one line or, between triple quotes, on several.
-/

namespace ProtocInvocation.Toml

open Text (Reader readMany readNumbered)

/-! ## Escapes -/

/-- Reads what follows a backslash. -/
def readEscape : Reader Char
  | 'b' :: rest => some ('\x08', rest)
  | 't' :: rest => some ('\t', rest)
  | 'n' :: rest => some ('\n', rest)
  | 'f' :: rest => some ('\x0c', rest)
  | 'r' :: rest => some ('\r', rest)
  | 'e' :: rest => some ('\x1b', rest)
  | '"' :: rest => some ('"', rest)
  | '\\' :: rest => some ('\\', rest)
  | 'x' :: rest => readNumbered 2 rest
  | 'u' :: rest => readNumbered 4 rest
  | 'U' :: rest => readNumbered 8 rest
  | _ => none

/-! ## Texts on one line -/

/-- Reads a character between double quotes. -/
def readBasicChar : Reader Char
  | [] => none
  | '\\' :: rest => readEscape rest
  | c :: rest => if c ≠ '"' ∧ isPlain c then some (c, rest) else none

/-- Reads a character between single quotes. -/
def readLiteralChar : Reader Char
  | [] => none
  | c :: rest => if c ≠ '\'' ∧ isPlain c then some (c, rest) else none

/-- Reads characters up to the quote that closes them. -/
def readClosed (quote : Char) (char : Reader Char) : Reader String := fun input =>
  match readMany char input with
  | (cs, c :: rest) => if c = quote then some (String.ofList cs, rest) else none
  | (_, []) => none

/-! ## Texts on several lines -/

/-- Reads a plain character, or the end of a line as it stands. -/
def readBlockChar (quote : Char) : Reader (List Char)
  | [] => none
  | '\n' :: rest => some (['\n'], rest)
  | '\r' :: '\n' :: rest => some (['\r', '\n'], rest)
  | c :: rest => if c ≠ quote ∧ isPlain c then some ([c], rest) else none

/-- Reads up to two quotes that do not close the text. -/
def readQuotes (quote : Char) : Reader (List Char) := fun input =>
  let quotes := input.takeWhile (· = quote)
  if quotes.length = 1 ∨ quotes.length = 2 then some (quotes, input.drop quotes.length) else none

/-- Reads an empty line. -/
def readEmptyLine : Reader Unit := fun input =>
  (dropBreak? (dropSpace input)).map ((), ·)

/-- Reads what follows a backslash at the end of a line: all space and line ends. -/
def readContinuation : Reader (List Char) := fun input => do
  let rest ← dropBreak? (dropSpace input)
  return ([], dropSpace (readMany readEmptyLine rest).2)

/-- Reads a piece of a text between three double quotes. -/
def readBasicPiece : Reader (List Char)
  | '\\' :: rest => (readContinuation rest).or ((readEscape rest).map fun (c, rest) => ([c], rest))
  | input => (readQuotes '"' input).or (readBlockChar '"' input)

/-- Reads a piece of a text between three single quotes. -/
def readLiteralPiece : Reader (List Char) := fun input =>
  (readQuotes '\'' input).or (readBlockChar '\'' input)

/-- Reads pieces up to three quotes. Two more quotes may stand before them. -/
def readBlock (quote : Char) (piece : Reader (List Char)) : Reader String := fun input =>
  let (pieces, rest) := readMany piece ((dropBreak? input).getD input)
  let quotes := rest.takeWhile (· = quote)
  if 3 ≤ quotes.length ∧ quotes.length ≤ 5 then
    some (String.ofList (pieces.flatten ++ quotes.drop 3), rest.drop quotes.length)
  else none

/-! ## Any text -/

/-- Reads a text on one line. -/
def readLineText : Reader String
  | '"' :: rest => readClosed '"' readBasicChar rest
  | '\'' :: rest => readClosed '\'' readLiteralChar rest
  | _ => none

/-- Reads a text. -/
def readText : Reader String
  | '"' :: '"' :: '"' :: rest => readBlock '"' readBasicPiece rest
  | '\'' :: '\'' :: '\'' :: rest => readBlock '\'' readLiteralPiece rest
  | input => readLineText input

end ProtocInvocation.Toml
