/-!
# Bytes read as text

`lossy` decodes bytes that should be a text. Bytes that cannot be decoded are replaced: each longest
start of a character that breaks off, and each byte that starts none, becomes one replacement
character.
-/

namespace CollectionRunner.Text

/-- The character shown for bytes that cannot be decoded. -/
def replacement : Char := '\ufffd'

/-- Range of the second byte and number of bytes of a character, by its first byte. -/
def leadByte (b : UInt8) : Option (UInt8 × UInt8 × Nat) :=
  if 0xc2 ≤ b && b ≤ 0xdf then some (0x80, 0xbf, 2)
  else if b == 0xe0 then some (0xa0, 0xbf, 3)
  else if b == 0xed then some (0x80, 0x9f, 3)
  else if 0xe1 ≤ b && b ≤ 0xef then some (0x80, 0xbf, 3)
  else if b == 0xf0 then some (0x90, 0xbf, 4)
  else if 0xf1 ≤ b && b ≤ 0xf3 then some (0x80, 0xbf, 4)
  else if b == 0xf4 then some (0x80, 0x8f, 4)
  else none

/-- The six bits of a continuing byte. -/
def payload (b : UInt8) : Nat := b.toNat % 64

/-- What has been read of a character: its bits so far, the range of the next byte, and how many
bytes are still to come. -/
structure Partial where
  bits : Nat
  low : UInt8
  high : UInt8
  missing : Nat

/-- Decode bytes, `state` being the character that was begun. -/
def lossyFrom : Option Partial → List UInt8 → List Char
  | none, [] => []
  | some _, [] => [replacement]
  | none, b :: rest => start b rest
  | some p, b :: rest =>
    if p.low ≤ b && b ≤ p.high then
      let bits := p.bits * 64 + payload b
      if p.missing ≤ 1 then Char.ofNat bits :: lossyFrom none rest
      else lossyFrom (some ⟨bits, 0x80, 0xbf, p.missing - 1⟩) rest
    else replacement :: start b rest
where
  /-- Decode bytes from the first byte of a character on. -/
  start (b : UInt8) (rest : List UInt8) : List Char :=
    if b < 0x80 then Char.ofNat b.toNat :: lossyFrom none rest
    else
      match leadByte b with
      | some (low, high, 2) => lossyFrom (some ⟨b.toNat % 32, low, high, 1⟩) rest
      | some (low, high, 3) => lossyFrom (some ⟨b.toNat % 16, low, high, 2⟩) rest
      | some (low, high, _) => lossyFrom (some ⟨b.toNat % 8, low, high, 3⟩) rest
      | none => replacement :: lossyFrom none rest

/-- The text of bytes. -/
def lossy (bytes : List UInt8) : List Char := lossyFrom none bytes

/-- The bytes of a text. -/
def bytes (s : String) : List UInt8 := s.toUTF8.toList

end CollectionRunner.Text
