/-!
# Documents

Values with names and lists, and their layout as text: two spaces a level, one item a line, nothing
between the brackets of an empty list. Within a text the quote, the backslash and the controls are
escaped, and every other character stands as it is.
-/

namespace ProtocInvocation

/-- A value of a document. Entries keep their order. -/
inductive Json where
  | null
  | bool (value : Bool)
  | text (value : String)
  | list (items : List Json)
  | object (entries : List (String × Json))
  deriving Repr

namespace Json

/-! ## Building -/

/-- A list of texts. -/
def texts (values : List String) : Json :=
  list (values.map text)

/-- A text that may be missing. -/
def text? (value : Option String) : Json :=
  value.elim null text

/-! ## Texts -/

/-- A hexadecimal digit in lower case. -/
def hexDigit (n : Nat) : Char :=
  Nat.digitChar n

/-- How one character is written between the quotes. -/
def escape (c : Char) : List Char :=
  if c = '"' then ['\\', '"']
  else if c = '\\' then ['\\', '\\']
  else if c = '\x08' then ['\\', 'b']
  else if c = '\t' then ['\\', 't']
  else if c = '\n' then ['\\', 'n']
  else if c = '\x0c' then ['\\', 'f']
  else if c = '\r' then ['\\', 'r']
  else if c.toNat < 32 then ['\\', 'u', '0', '0', hexDigit (c.toNat / 16), hexDigit (c.toNat % 16)]
  else [c]

/-- A text between quotes. -/
def quote (value : String) : List Char :=
  '"' :: (value.toList.flatMap escape ++ ['"'])

/-! ## Layout -/

/-- A new line at a level. -/
def newLine (level : Nat) : List Char :=
  '\n' :: List.replicate (2 * level) ' '

mutual

/-- The text of a value at a level. -/
def layout (level : Nat) : Json → List Char
  | null => "null".toList
  | bool true => "true".toList
  | bool false => "false".toList
  | text value => quote value
  | list [] => ['[', ']']
  | list (item :: items) =>
    '[' :: (newLine (level + 1) ++ layout (level + 1) item ++ layoutItems (level + 1) items ++
      newLine level ++ [']'])
  | object [] => ['\x7b', '\x7d']
  | object ((key, item) :: entries) =>
    '\x7b' :: (newLine (level + 1) ++ quote key ++ [':', ' '] ++ layout (level + 1) item ++
      layoutEntries (level + 1) entries ++ newLine level ++ ['\x7d'])

/-- The items after the first. -/
def layoutItems (level : Nat) : List Json → List Char
  | [] => []
  | item :: items => ',' :: (newLine level ++ layout level item ++ layoutItems level items)

/-- The entries after the first. -/
def layoutEntries (level : Nat) : List (String × Json) → List Char
  | [] => []
  | (key, item) :: entries =>
    ',' :: (newLine level ++ quote key ++ [':', ' '] ++ layout level item ++
      layoutEntries level entries)

end

/-- The text of a document. -/
def render (document : Json) : String :=
  String.ofList (layout 0 document)

end Json

end ProtocInvocation
