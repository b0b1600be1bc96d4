/-!
# Ranges of code points

A property of characters is given by the ranges of code points that have it.
-/

namespace ProtocInvocation.Text

/-- Whether `n` lies in one of the ranges, which ascend. -/
def inRanges (n : Nat) : List (Nat × Nat) → Bool
  | [] => false
  | (first, last) :: later => first ≤ n && (n ≤ last || inRanges n later)

end ProtocInvocation.Text
