import ProtocInvocation.Toml.Number

/-!
# Dates and times

Nothing that this program is configured by is a date or a time, so only their form is checked.
-/

namespace ProtocInvocation.Toml

/-! ## Dates -/

/-- The number that two digits write. -/
def twoDigits? : List Char → Option Nat
  | [a, b] => if a.isDigit ∧ b.isDigit then some (10 * digitValue a + digitValue b) else none
  | _ => none

/-- Whether two digits write a number within bounds. -/
def isBetween (low high : Nat) (word : List Char) : Bool :=
  match twoDigits? word with
  | some n => low ≤ n && n ≤ high
  | none => false

/-- How many days a month has. -/
def daysIn (year month : Nat) : Nat :=
  if month = 2 then
    if year % 4 = 0 ∧ (year % 100 ≠ 0 ∨ year % 400 = 0) then 29 else 28
  else if month = 4 ∨ month = 6 ∨ month = 9 ∨ month = 11 then 30
  else 31

/-- Whether a word is a date. -/
def isDate : List Char → Bool
  | [y1, y2, y3, y4, '-', m1, m2, '-', d1, d2] =>
    match twoDigits? [y1, y2], twoDigits? [y3, y4], twoDigits? [m1, m2] with
    | some century, some year, some month =>
      1 ≤ month && month ≤ 12 && isBetween 1 (daysIn (100 * century + year) month) [d1, d2]
    | _, _, _ => false
  | _ => false

/-! ## Times -/

/-- Whether a word is nothing or the seconds of a time. -/
def isSeconds : List Char → Bool
  | [] => true
  | ':' :: s1 :: s2 :: [] => isBetween 0 60 [s1, s2]
  | ':' :: s1 :: s2 :: '.' :: d :: ds => isBetween 0 60 [s1, s2] && (d :: ds).all Char.isDigit
  | _ => false

/-- Whether a word is a time of day. -/
def isTime : List Char → Bool
  | h1 :: h2 :: ':' :: m1 :: m2 :: rest =>
    isBetween 0 23 [h1, h2] && isBetween 0 59 [m1, m2] && isSeconds rest
  | _ => false

/-- Whether a word is nothing or a distance from universal time. -/
def isOffset : List Char → Bool
  | [] => true
  | [z] => z = 'Z' || z = 'z'
  | [sign, h1, h2, ':', m1, m2] =>
    (sign = '+' || sign = '-') && isBetween 0 23 [h1, h2] && isBetween 0 59 [m1, m2]
  | _ => false

/-- Whether a word is a date, a time, or a date and a time. -/
def isDateTime (word : List Char) : Bool :=
  let date := word.take 10
  let time := (word.drop 11).takeWhile fun c => c.isDigit || c = ':' || c = '.'
  isDate word || isTime word ||
    (isDate date && ['T', 't', ' '].contains ((word.drop 10).headD '-') && isTime time &&
      isOffset (word.drop (11 + time.length)))

end ProtocInvocation.Toml
