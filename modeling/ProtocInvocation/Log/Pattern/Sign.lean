import ProtocInvocation.Log.Pattern.Mode

/-!
# Signs of patterns

The signs that match something by themselves, with a backslash before them or without. Not every
sign is supported in every mode. With characters of all scripts, a sign is refused that would need
tables of their properties: short classes, edges of words, and any character whose other case would
match. With bytes, a sign is refused that could match a part of a character.
-/

namespace ProtocInvocation.Log.Pattern

open Text (Reader hexValue?)

/-- A sign that matches something. -/
inductive Sign where
  /-- A character, which may be written as a byte by its two digits. -/
  | character (c : Char) (isByte : Bool)
  /-- A dot, for any character but the end of a line. -/
  | anything
  /-- The beginning or the end of the text or of a line. -/
  | edge
  /-- The beginning or the end of a word, or neither. -/
  | wordEdge
  /-- The class of digits, blanks or word characters, or of all others. -/
  | shortClass (negated : Bool)
  deriving DecidableEq, Repr

/-! ## What is supported -/

/-- Whether a sign is supported. -/
def Sign.isSupported (mode : Mode) : Sign → Bool
  | character c isByte => if mode.unicode then !mode.caseless else !isByte || c.toNat < 0x80
  | anything => mode.unicode
  | edge => true
  | wordEdge => !mode.unicode
  | shortClass negated => !mode.unicode && !negated

/-- Whether a sign is supported as a member of a class in brackets. -/
def Sign.isMember (mode : Mode) : Sign → Bool
  | character c _ => if mode.unicode then !mode.caseless else c.toNat < 0x80
  | shortClass negated => !mode.unicode && !negated
  | anything | edge | wordEdge => false

/-! ## Escapes -/

/-- The control character that a letter stands for behind a backslash. -/
def control? : Char → Option Char
  | 'a' => some '\x07'
  | 'f' => some '\x0c'
  | 'n' => some '\n'
  | 'r' => some '\r'
  | 't' => some '\t'
  | 'v' => some '\x0b'
  | _ => none

/-- Whether a character stands for itself behind a backslash. -/
def isEscapable (c : Char) : Bool :=
  c.toNat < 0x80 && !c.isAlphanum && c ≠ '<' && c ≠ '>'

/-- Reads hexadecimal digits, behind the number that those before them write. -/
def readDigits (mode : Mode) : Nat → Nat → Reader Nat
  | 0, n, input => some (n, input)
  | count + 1, n, input =>
    match mode.skip input with
    | [] => none
    | c :: rest => (hexValue? c).bind fun digit => readDigits mode count (16 * n + digit) rest

/-- Reads the character whose number has so many digits. -/
def readNumbered (mode : Mode) (count : Nat) : Reader Sign := fun input => do
  let (n, rest) ← readDigits mode count 0 input
  if n.isValidChar then return (.character (Char.ofNat n) (count = 2), rest) else none

/-- Reads a sign behind its backslash. Properties of characters are not supported in any mode. -/
def readEscaped (mode : Mode) : Reader Sign
  | [] => none
  | 'x' :: rest => readNumbered mode 2 rest
  | 'u' :: rest => readNumbered mode 4 rest
  | 'U' :: rest => readNumbered mode 8 rest
  | c :: rest =>
    if isEscapable c then some (.character c false, rest)
    else if ['A', 'z'].contains c then some (.edge, rest)
    else if ['b', 'B', '<', '>'].contains c then some (.wordEdge, rest)
    else if ['d', 's', 'w'].contains c then some (.shortClass false, rest)
    else if ['D', 'S', 'W'].contains c then some (.shortClass true, rest)
    else (control? c).map (.character · false, rest)

/-- Reads a sign that matches something outside brackets. -/
def readSign (mode : Mode) : Reader Sign
  | [] => none
  | '\\' :: rest => readEscaped mode rest
  | '.' :: rest => some (.anything, rest)
  | '^' :: rest | '$' :: rest => some (.edge, rest)
  | c :: rest => some (.character c false, rest)

/-- Reads a sign within brackets. -/
def readMember (mode : Mode) : Reader Sign
  | [] => none
  | '\\' :: rest => readEscaped mode rest
  | c :: rest => some (.character c false, rest)

end ProtocInvocation.Log.Pattern
