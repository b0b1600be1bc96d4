import ProtocInvocation.Toml.DateTime

/-!
# Bare words

What a word without quotes stands for in a configuration file: a truth value, a number or a date.
-/

namespace ProtocInvocation.Toml

/-- What a bare word stands for. -/
inductive Scalar where
  | boolean (value : Bool)
  | integer (value : Int)
  /-- A number with a fraction or an exponent. -/
  | decimal (value : Decimal)
  /-- Infinity, or no number at all. -/
  | special (word : String)
  | dateTime (text : String)
  /-- A word that passes for an integer and writes none. It may stand where it is not read. -/
  | unreadable (word : String)
  deriving DecidableEq, Repr

namespace Scalar

/-- Whether a word stands for infinity or for no number at all. -/
def isSpecial (word : List Char) : Bool :=
  (signed word).2 = ['i', 'n', 'f'] || (signed word).2 = ['n', 'a', 'n']

/-- What a word stands for. -/
def ofWord? (word : List Char) : Option Scalar :=
  if word = ['t', 'r', 'u', 'e'] then some (.boolean true)
  else if word = ['f', 'a', 'l', 's', 'e'] then some (.boolean false)
  else if isSpecial word then some (.special (String.ofList word))
  else
    match integer? word, decimal? word with
    | some n, _ => some (.integer n)
    | none, some d => some (.decimal d)
    | none, none =>
      if isDateTime word then some (.dateTime (String.ofList word))
      else if passesForInteger word then some (.unreadable (String.ofList word))
      else none

/-- Whether the value of a word can be read: a number has to be one and in its range. -/
def isReadable : Scalar → Bool
  | integer n => integerFits n
  | decimal d => d.fits
  | unreadable _ => false
  | boolean _ | special _ | dateTime _ => true

end Scalar

end ProtocInvocation.Toml
