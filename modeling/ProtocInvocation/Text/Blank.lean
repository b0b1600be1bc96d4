/-!
# Blank characters

The characters that stand for white space in text, and text without them at its ends.
-/

namespace ProtocInvocation.Text

/-- The property White_Space: the blanks and breaks of ASCII, next line, the no-break spaces, the
typographic spaces, and the separators of lines and paragraphs. -/
def isBlank (c : Char) : Bool :=
  let n := c.toNat
  (0x9 ≤ n && n ≤ 0xd) || n == 0x20 || n == 0x85 || n == 0xa0 || n == 0x1680 ||
    (0x2000 ≤ n && n ≤ 0x200a) || n == 0x2028 || n == 0x2029 || n == 0x202f || n == 0x205f ||
    n == 0x3000

theorem isBlank_of_isWhitespace {c : Char} (h : c.isWhitespace) : isBlank c := by
  simp only [Char.isWhitespace, Bool.or_eq_true, decide_eq_true_eq] at h
  rcases h with ((rfl | rfl) | rfl) | rfl <;> decide

/-- A list of characters without the blanks at its ends. -/
def trimList (cs : List Char) : List Char :=
  ((cs.dropWhile isBlank).reverse.dropWhile isBlank).reverse

/-- `text` without the blanks at its ends. -/
def trim (text : String) : String :=
  String.ofList (trimList text.toList)

end ProtocInvocation.Text
