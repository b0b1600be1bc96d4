import ProtocInvocation.Log.Pattern.Basic

/-!
# Values of fields

The value that a log filter asks of a field is a number, or a pattern that the value has to match.
-/

namespace ProtocInvocation.Log

/-- Whether a text is empty or the exponent of a decimal. -/
def isExponent : List Char → Bool
  | [] => true
  | c :: word =>
    let digits := if word.head? = some '+' ∨ word.head? = some '-' then word.tail else word
    (c = 'e' || c = 'E') && digits ≠ [] && digits.all Char.isDigit

/-- Whether a text without a sign is a number: a decimal, infinity, or none that there is. -/
def isUnsigned (word : List Char) : Bool :=
  let mantissa := word.takeWhile fun c => c.isDigit ∨ c = '.'
  ["inf", "infinity", "nan"].contains (String.ofList (word.map Char.toLower)) ||
    (mantissa.any Char.isDigit && mantissa.count '.' ≤ 1 && isExponent (word.drop mantissa.length))

/-- Whether a text is a value that can be asked of a field. Numbers without a plus sign have the
form of patterns. -/
def isValue : List Char → Bool
  | '+' :: word => isUnsigned word
  | text => Pattern.isPattern text

end ProtocInvocation.Log
