import ProtocInvocation.Toml.Table
import ProtocInvocation.Toml.Text

/-!
# Configuration files

The grammar of a configuration file: statements, one a line, of keys and values. Arrays and tables
in braces may go over several lines and nest up to a fixed depth.
-/

namespace ProtocInvocation.Toml

open Text (Reader readMany)

/-- How deep arrays and braces may nest, and how many parts a key may have. -/
def nestingLimit : Nat := 80

/-! ## Keys -/

/-- Whether a character may stand in a key without quotes. -/
def isBare (c : Char) : Bool :=
  c.isAlphanum || c = '_' || c = '-'

/-- Reads one part of a key. -/
def readKeyPart : Reader String := fun input =>
  let bare := input.takeWhile isBare
  if bare = [] then readLineText input else some (String.ofList bare, input.drop bare.length)

/-- Reads a dot and one more part of a key. -/
def readDottedPart : Reader String := fun input =>
  match dropSpace input with
  | '.' :: rest => readKeyPart (dropSpace rest)
  | _ => none

/-- Reads a key, the parts of which are joined by dots. -/
def readKey : Reader (List String) := fun input => do
  let (first, rest) ← readKeyPart input
  let (more, rest) := readMany readDottedPart rest
  if more.length < nestingLimit then return (first :: more, rest) else none

/-! ## Values -/

/-- Whether a character may stand in a word: no space, no sign that structures a file and no end of
a line. -/
def isWordChar (c : Char) : Bool :=
  !(isSpace c || ['=', ',', '[', ']', '\x7b', '\x7d', '#', '\r', '\n'].contains c)

/-- Reads a part of a word, with the space before it. A quote behind space begins no part. -/
def readWordPart : Reader (List Char) := fun input =>
  let space := input.takeWhile isSpace
  let rest := input.drop space.length
  match rest.takeWhile isWordChar with
  | [] => none
  | c :: cs =>
    if space ≠ [] ∧ (c = '"' ∨ c = '\'') then none
    else some (space ++ c :: cs, rest.drop (cs.length + 1))

/-- Takes a word off the front, with the space between its parts. -/
def takeWord (input : List Char) : List Char × List Char :=
  let (parts, rest) := readMany readWordPart input
  (parts.flatten, rest)

/-- Reads a number, a truth value or a date. -/
def readScalar : Reader Value := fun input =>
  let (word, rest) := takeWord input
  (Scalar.ofWord? word).map fun value => (.scalar value, rest)

/-- Reads an item, and a comma if one follows. -/
def readItem {α : Type} (item : Reader α) : Reader (α × Bool) := fun input => do
  let (a, rest) ← item (dropFiller input)
  match dropFiller rest with
  | ',' :: rest => return ((a, true), rest)
  | rest => return ((a, false), rest)

/-- Reads items with commas between them up to the bracket that closes them. A comma may follow the
last. -/
def readItems {α : Type} (close : Char) (item : Reader α) : Reader (List α) := fun input =>
  let (items, rest) := readMany (readItem item) input
  match dropFiller rest with
  | [] => none
  | c :: rest =>
    if c = close ∧ items.dropLast.all (·.2) then some (items.map (·.1), rest) else none

/-- Reads a key and its value, between which `skip` drops what may stand around the equals sign. -/
def readAssignment (skip : List Char → List Char) (value : Reader Value) :
    Reader (List String × Value) := fun input => do
  let (path, rest) ← readKey input
  match skip rest with
  | '=' :: rest =>
    let (v, rest) ← value (skip rest)
    return ((path, v), rest)
  | _ => none

/-- Reads a value in which arrays and braces nest at most `depth` deep. -/
def readValue (depth : Nat) : Reader Value
  | '"' :: rest => (readText ('"' :: rest)).map fun (s, rest) => (.text s, rest)
  | '\'' :: rest => (readText ('\'' :: rest)).map fun (s, rest) => (.text s, rest)
  | '[' :: rest =>
    match depth with
    | 0 => none
    | depth + 1 => do
      let (items, rest) ← readItems ']' (readValue depth) rest
      return (.array items, rest)
  | '\x7b' :: rest =>
    match depth with
    | 0 => none
    | depth + 1 => do
      let (items, rest) ← readItems '\x7d' (readAssignment dropFiller (readValue depth)) rest
      let table ← items.foldlM (fun (table : Table) (path, v) => table.assign? path v) []
      return (.table .closed table, rest)
  | input => readScalar input

/-! ## Statements -/

/-- Reads the key of a header up to the brackets that close it. -/
def readHeader (close : List Char) : Reader (List String) := fun input => do
  let (path, rest) ← readKey (dropSpace input)
  return (path, ← close.isPrefixOf? (dropSpace rest))

/-- Reads a statement. -/
def readStatement : Reader Statement
  | '[' :: '[' :: rest => (readHeader [']', ']'] rest).map fun (path, rest) => (.append path, rest)
  | '[' :: rest => (readHeader [']'] rest).map fun (path, rest) => (.define path, rest)
  | input =>
    (readAssignment dropSpace (readValue nestingLimit) input).map fun ((path, v), rest) =>
      (.assign path v, rest)

/-- Reads a line with nothing in it but a statement, if even that. -/
def readStatementLine : Reader (List Statement) := fun input =>
  match dropLine? input with
  | some rest => some ([], rest)
  | none => do
    let (statement, rest) ← readStatement (dropSpace input)
    return ([statement], ← dropLine? rest)

/-- The statements of a text, if it holds nothing else. -/
def statements? (text : List Char) : Option (List Statement) :=
  match readMany readStatementLine text with
  | (lines, []) => some lines.flatten
  | _ => none

/-- The table that a text describes. A byte order mark may stand in front. -/
def Table.ofText? (text : String) : Option Table := do
  let cs := text.toList
  Table.build? [] [] (← statements? (if cs.head? = some '\ufeff' then cs.tail else cs))

end ProtocInvocation.Toml
