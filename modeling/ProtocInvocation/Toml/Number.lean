/-!
# Numbers

What the numbers of a configuration file write, and which of them have a place among the integers of
128 bits and the floats of 64 bits.
-/

namespace ProtocInvocation.Toml

/-! ## Digits -/

/-- The digits of a number, in which single underscores may stand between two digits. -/
def digits? (isDigit : Char → Bool) : List Char → Option (List Char)
  | [] => none
  | [c] => if isDigit c then some [c] else none
  | c :: '_' :: rest => if isDigit c then (digits? isDigit rest).map (c :: ·) else none
  | c :: rest => if isDigit c then (digits? isDigit rest).map (c :: ·) else none

/-- The value of a digit of any base up to sixteen. -/
def digitValue (c : Char) : Nat :=
  if c.isDigit then c.toNat - '0'.toNat else c.toLower.toNat - 'a'.toNat + 10

/-- Whether `c` is a digit of this base. -/
def isDigitOf (base : Nat) (c : Char) : Bool :=
  (c.isDigit || ('a' ≤ c.toLower && c.toLower ≤ 'f')) && digitValue c < base

/-- The number that digits write behind those of `n`. -/
def appendDigits (base n : Nat) (ds : List Char) : Nat :=
  ds.foldl (fun n c => base * n + digitValue c) n

/-- The natural number that a word writes in this base. -/
def natural? (base : Nat) (word : List Char) : Option Nat :=
  (digits? (isDigitOf base) word).map (appendDigits base 0)

/-- The natural number that a word writes in decimal, without leading zeros. -/
def unpadded? (word : List Char) : Option Nat :=
  match word with
  | '0' :: _ :: _ => none
  | _ => natural? 10 word

/-! ## Signs -/

/-- Sets apart the sign of a number. -/
def signed : List Char → Bool × List Char
  | '-' :: word => (true, word)
  | '+' :: word => (false, word)
  | word => (false, word)

/-- The number of this magnitude on one side of zero. -/
def withSign (negative : Bool) (magnitude : Nat) : Int :=
  if negative then -(magnitude : Int) else magnitude

/-! ## Integers -/

/-- The integer that a word writes. -/
def integer? (word : List Char) : Option Int :=
  match word with
  | '0' :: 'x' :: ds => (natural? 16 ds).map Int.ofNat
  | '0' :: 'o' :: ds => (natural? 8 ds).map Int.ofNat
  | '0' :: 'b' :: ds => (natural? 2 ds).map Int.ofNat
  | _ => (unpadded? (signed word).2).map (withSign (signed word).1)

/-- Whether an integer fits into 128 bits, with a sign or without. -/
def integerFits (n : Int) : Bool :=
  -Int.pow 2 127 ≤ n && n < Int.pow 2 128

/-- Whether a word passes for an integer, although it may write none: the mark of a base alone, or
digits and then a hexadecimal digit on either side of every underscore, without a sign of a float or
a space. -/
def passesForInteger (word : List Char) : Bool :=
  let unsigned := (signed word).2
  let behindDigits := unsigned.dropWhile Char.isDigit
  let pieces := word.splitOn '_'
  [['0', 'x'], ['0', 'o'], ['0', 'b']].contains word ||
    (unsigned.head?.any (fun c => c.isDigit && c ≠ '0') && behindDigits.head? = some '_' &&
      behindDigits.all (fun c => c ≠ '.' && c ≠ 'e' && c ≠ 'E' && c ≠ ' ') &&
      pieces.dropLast.all (·.getLast?.any (isDigitOf 16)) &&
      pieces.tail.all (·.head?.any (isDigitOf 16)))

/-! ## Decimals -/

/-- A decimal: its digits, as a number, count this power of ten. -/
structure Decimal where
  digits : Int
  exponent : Int
  deriving DecidableEq, Repr

/-- The digits of a fraction behind its dot, if there is one. -/
def fraction? : List Char → Option (List Char)
  | [] => some []
  | _ :: ds => digits? Char.isDigit ds

/-- The number of an exponent behind its letter, if there is one. -/
def exponent? : List Char → Option Int
  | [] => some 0
  | _ :: word => (natural? 10 (signed word).2).map (withSign (signed word).1)

/-- The decimal that a word writes. -/
def decimal? (word : List Char) : Option Decimal := do
  let (negative, unsigned) := signed word
  let mantissa := unsigned.takeWhile fun c => c ≠ 'e' ∧ c ≠ 'E'
  let whole := mantissa.takeWhile (· ≠ '.')
  let fraction ← fraction? (mantissa.drop whole.length)
  let exponent ← exponent? (unsigned.drop mantissa.length)
  let digits := appendDigits 10 (← unpadded? whole) fraction
  return ⟨withSign negative digits, exponent - fraction.length⟩

/-- The least magnitude that no float is nearest to: half a step above the greatest float. -/
def floatLimit : Nat := Nat.pow 2 1024 - Nat.pow 2 970

/-- Whether a decimal is nearest to some float. The number of its digits decides unless it has as
many of them before its dot as the limit has. -/
def Decimal.fits (d : Decimal) : Bool :=
  let magnitude := d.digits.natAbs
  let places := (Nat.toDigits 10 magnitude).length + d.exponent
  magnitude = 0 || places < 309 ||
    (places = 309 &&
      magnitude * Nat.pow 10 d.exponent.toNat < floatLimit * Nat.pow 10 (-d.exponent).toNat)

end ProtocInvocation.Toml
