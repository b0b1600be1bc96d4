/-!
# Text from any bytes

Bytes read as text where they are text. A longest run of bytes that begins a character and does not
complete it is shown as one replacement character, and so is every byte that begins none.
-/

namespace ProtocInvocation.Text

/-- A character of which some bytes are missing. -/
structure PartialChar where
  /-- How many bytes are missing. -/
  missing : Nat
  /-- The least next byte. -/
  low : Nat
  /-- The greatest next byte. -/
  high : Nat
  /-- The bits of the bytes so far. -/
  bits : Nat
  deriving DecidableEq, Repr

/-- The character for bytes that are no text. -/
def replacement : Char := '\ufffd'

/-- Reads a byte between characters: the characters it gives, and the character it begins. -/
def beginChar (b : Nat) : List Char × Option PartialChar :=
  if b < 0x80 then ([Char.ofNat b], none)
  else if 0xc2 ≤ b ∧ b ≤ 0xdf then ([], some ⟨1, 0x80, 0xbf, b - 0xc0⟩)
  else if b = 0xe0 then ([], some ⟨2, 0xa0, 0xbf, 0⟩)
  else if b = 0xed then ([], some ⟨2, 0x80, 0x9f, 0xd⟩)
  else if 0xe1 ≤ b ∧ b ≤ 0xef then ([], some ⟨2, 0x80, 0xbf, b - 0xe0⟩)
  else if b = 0xf0 then ([], some ⟨3, 0x90, 0xbf, 0⟩)
  else if 0xf1 ≤ b ∧ b ≤ 0xf3 then ([], some ⟨3, 0x80, 0xbf, b - 0xf0⟩)
  else if b = 0xf4 then ([], some ⟨3, 0x80, 0x8f, 4⟩)
  else ([replacement], none)

/-- Reads a byte: the characters it gives, and the character that is begun after it. -/
def readByte (begun : Option PartialChar) (b : Nat) : List Char × Option PartialChar :=
  match begun with
  | none => beginChar b
  | some p =>
    if p.low ≤ b ∧ b ≤ p.high then
      let bits := 64 * p.bits + (b - 0x80)
      if p.missing = 1 then ([Char.ofNat bits], none)
      else ([], some ⟨p.missing - 1, 0x80, 0xbf, bits⟩)
    else (replacement :: (beginChar b).1, (beginChar b).2)

/-- The characters of bytes after those of a character that was begun. -/
def lossyFrom (begun : Option PartialChar) : List UInt8 → List Char
  | [] => if begun.isSome then [replacement] else []
  | b :: bytes => (readByte begun b.toNat).1 ++ lossyFrom (readByte begun b.toNat).2 bytes

/-- The text that bytes hold, with replacements where they hold none. -/
def lossy (bytes : ByteArray) : String :=
  String.ofList (lossyFrom none bytes.toList)

end ProtocInvocation.Text
