/-!
# Reading from the front

A reader takes something off the front of a list of characters and returns the rest, or refuses.
Readers that repeat end when nothing is taken, so every repetition ends.
-/

namespace ProtocInvocation.Text

variable {α : Type}

/-- Takes an `α` off the front. -/
abbrev Reader (α : Type) := List Char → Option (α × List Char)

/-- Reads as long as `item` takes something off the front. -/
def readMany (item : Reader α) (input : List Char) : List α × List Char :=
  match item input with
  | none => ([], input)
  | some (a, rest) =>
    if rest.length < input.length then
      let (items, last) := readMany item rest
      (a :: items, last)
    else ([], input)
termination_by input.length

/-- Takes steps, each with what the steps before it have come to, until one of them is the last. -/
def readSteps {σ : Type} (step : σ → Reader (σ ⊕ α)) (state : σ) (input : List Char) :
    Option (α × List Char) :=
  match step state input with
  | none => none
  | some (.inr a, rest) => some (a, rest)
  | some (.inl state, rest) =>
    if rest.length < input.length then readSteps step state rest else none
termination_by input.length

/-! ## Characters by number -/

/-- The value of a hexadecimal digit. -/
def hexValue? (c : Char) : Option Nat :=
  if c.isDigit then some (c.toNat - '0'.toNat)
  else if 'a' ≤ c ∧ c ≤ 'f' then some (c.toNat - 'a'.toNat + 10)
  else if 'A' ≤ c ∧ c ≤ 'F' then some (c.toNat - 'A'.toNat + 10)
  else none

/-- The number that the first `count` characters write in hexadecimal. -/
def readHex (count : Nat) : Reader Nat := fun input =>
  if (input.take count).length < count then none
  else do
    let digits ← (input.take count).mapM hexValue?
    return (digits.foldl (16 * · + ·) 0, input.drop count)

/-- The character with the number that the first `count` characters write in hexadecimal. -/
def readNumbered (count : Nat) : Reader Char := fun input => do
  let (n, rest) ← readHex count input
  if n.isValidChar then return (Char.ofNat n, rest) else none

end ProtocInvocation.Text
