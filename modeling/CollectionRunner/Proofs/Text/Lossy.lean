import CollectionRunner.Text.Lossy
import Mathlib

/-!
# Texts read back from their bytes

The bytes of a text are those of its characters (`bytes_ofList`), and they are decoded to the text
they come from: each character is read back from its one to four bytes, whatever follows them
(`lossyFrom_utf8EncodeChar`).  So only bytes that are no text's are replaced.
-/

namespace CollectionRunner.Text

/-! ## The bytes of a text -/

/-- The loop of `ByteArray.toList` collects the bytes that are left, in order. -/
theorem toList_loop_eq (b : ByteArray) (i : ℕ) (acc : List UInt8) :
    ByteArray.toList.loop b i acc = acc.reverse ++ b.data.toList.drop i := by
  fun_induction ByteArray.toList.loop b i acc with
  | case1 i acc inside ih =>
    have there : b.data.toList.drop i = b.get! i :: b.data.toList.drop (i + 1) := by
      rw [List.drop_eq_getElem_cons (by simpa using inside)]
      congr 1
      exact (getElem!_pos b.data i inside).symm
    rw [ih, there, List.reverse_cons, List.append_assoc, List.singleton_append]
  | case2 i acc outside =>
    rw [List.drop_of_length_le (by simpa using outside), List.append_nil]

theorem bytes_ofList (cs : List Char) :
    bytes (String.ofList cs) = cs.flatMap String.utf8EncodeChar := by
  rw [bytes, String.toUTF8_eq_toByteArray, String.toByteArray_ofList, ByteArray.toList,
    toList_loop_eq]
  exact List.toList_data_toByteArray

theorem bytes_eq (s : String) : bytes s = s.toList.flatMap String.utf8EncodeChar := by
  rw [← bytes_ofList, String.ofList_toList]

/-! ## One byte of a character -/

section Bytes

variable {p : Partial} {b : UInt8} {rest : List UInt8}

theorem lossyFrom_last (inside : p.low ≤ b ∧ b ≤ p.high) (last : p.missing = 1) :
    lossyFrom (some p) (b :: rest) =
      Char.ofNat (p.bits * 64 + payload b) :: lossyFrom none rest := by
  rw [lossyFrom, if_pos (by simpa using inside)]
  exact if_pos last.le

theorem lossyFrom_more (inside : p.low ≤ b ∧ b ≤ p.high) (more : 1 < p.missing) :
    lossyFrom (some p) (b :: rest) =
      lossyFrom (some ⟨p.bits * 64 + payload b, 0x80, 0xbf, p.missing - 1⟩) rest := by
  rw [lossyFrom, if_pos (by simpa using inside)]
  exact if_neg (Nat.not_le.mpr more)

theorem toNat_byte {n : ℕ} (small : n < 256) : (UInt8.ofNat n).toNat = n := by
  rw [UInt8.toNat_ofNat', Nat.mod_eq_of_lt small]

/-- Six bits after the mark of a byte that continues a character. -/
theorem payload_continuing (n : ℕ) : payload (UInt8.ofNat (n % 64 + 0x80)) = n % 64 := by
  rw [payload, toNat_byte (by omega)]
  omega

theorem continuing_inside (n : ℕ) :
    (0x80 : UInt8) ≤ UInt8.ofNat (n % 64 + 0x80) ∧ UInt8.ofNat (n % 64 + 0x80) ≤ (0xbf : UInt8) := by
  rw [UInt8.le_iff_toNat_le, UInt8.le_iff_toNat_le, toNat_byte (by omega)]
  simp only [UInt8.reduceToNat]
  omega

/-- What the first byte of a character says of the second one and of how many there are. -/
theorem leadByte_eq (b : UInt8) :
    leadByte b =
      if 0xc2 ≤ b.toNat ∧ b.toNat ≤ 0xdf then some (0x80, 0xbf, 2)
      else if b.toNat = 0xe0 then some (0xa0, 0xbf, 3)
      else if b.toNat = 0xed then some (0x80, 0x9f, 3)
      else if 0xe1 ≤ b.toNat ∧ b.toNat ≤ 0xef then some (0x80, 0xbf, 3)
      else if b.toNat = 0xf0 then some (0x90, 0xbf, 4)
      else if 0xf1 ≤ b.toNat ∧ b.toNat ≤ 0xf3 then some (0x80, 0xbf, 4)
      else if b.toNat = 0xf4 then some (0x80, 0x8f, 4)
      else none := by
  unfold leadByte
  simp only [Bool.and_eq_true, decide_eq_true_eq, beq_iff_eq, UInt8.le_iff_toNat_le,
    ← UInt8.toNat_inj, UInt8.reduceToNat]

theorem lossyFrom_ascii {n : ℕ} (small : n < 0x80) :
    lossyFrom none (UInt8.ofNat n :: rest) = Char.ofNat n :: lossyFrom none rest := by
  have ascii : UInt8.ofNat n < 0x80 := by
    rw [UInt8.lt_iff_toNat_lt, toNat_byte (by omega)]
    exact small
  rw [lossyFrom, lossyFrom.start, if_pos ascii, toNat_byte (by omega)]

/-- The first byte of a character of `k` bytes has as many bits as the others leave. -/
theorem lossyFrom_lead {n k : ℕ} {low high : UInt8} (byte : n < 256) (large : 0x80 ≤ n)
    (lead : leadByte (UInt8.ofNat n) = some (low, high, k)) (several : k = 2 ∨ k = 3 ∨ k = 4) :
    lossyFrom none (UInt8.ofNat n :: rest) =
      lossyFrom (some ⟨n % 2 ^ (7 - k), low, high, k - 1⟩) rest := by
  have wide : ¬ UInt8.ofNat n < 0x80 := by
    rw [UInt8.lt_iff_toNat_lt, toNat_byte byte]
    exact Nat.not_lt.mpr large
  rw [lossyFrom, lossyFrom.start, if_neg wide, lead, toNat_byte byte]
  rcases several with rfl | rfl | rfl <;> rfl

end Bytes

/-! ## Characters -/

section Characters

variable {v : ℕ} (rest : List UInt8)

theorem lossyFrom_two (least : 0x80 ≤ v) (most : v ≤ 0x7ff) :
    lossyFrom none
        (UInt8.ofNat (v / 64 % 32 + 0xc0) :: UInt8.ofNat (v % 64 + 0x80) :: rest) =
      Char.ofNat v :: lossyFrom none rest := by
  have lead : leadByte (UInt8.ofNat (v / 64 % 32 + 0xc0)) = some (0x80, 0xbf, 2) := by
    rw [leadByte_eq, toNat_byte (by omega), if_pos (by omega)]
  have bits : (v / 64 % 32 + 0xc0) % 2 ^ (7 - 2) * 64 + v % 64 = v := by omega
  rw [lossyFrom_lead (by omega) (by omega) lead (by decide),
    lossyFrom_last (continuing_inside v) rfl, payload_continuing, bits]

/-- The second byte of a character of three bytes is in the range that the first one says, as the
character is none of two bytes and no half of a pair. -/
theorem leadByte_three (least : 0x800 ≤ v) (most : v ≤ 0xffff)
    (whole : v < 0xd800 ∨ 0xdfff < v) :
    ∃ low high, leadByte (UInt8.ofNat (v / 4096 % 16 + 0xe0)) = some (low, high, 3) ∧
      low ≤ UInt8.ofNat (v / 64 % 64 + 0x80) ∧ UInt8.ofNat (v / 64 % 64 + 0x80) ≤ high := by
  simp only [leadByte_eq, UInt8.le_iff_toNat_le]
  rw [toNat_byte (n := v / 4096 % 16 + 0xe0) (by omega),
    toNat_byte (n := v / 64 % 64 + 0x80) (by omega), if_neg (by omega)]
  split_ifs <;> first
    | exact ⟨_, _, rfl, by simp only [UInt8.reduceToNat]; omega⟩
    | omega

/-- Three bytes that encode a character are decoded to it; surrogates are not characters, hence the
hypothesis on the value. -/
theorem lossyFrom_three (least : 0x800 ≤ v) (most : v ≤ 0xffff)
    (whole : v < 0xd800 ∨ 0xdfff < v) :
    lossyFrom none
        (UInt8.ofNat (v / 4096 % 16 + 0xe0) :: UInt8.ofNat (v / 64 % 64 + 0x80) ::
          UInt8.ofNat (v % 64 + 0x80) :: rest) =
      Char.ofNat v :: lossyFrom none rest := by
  obtain ⟨low, high, lead, inside⟩ := leadByte_three least most whole
  have bits : ((v / 4096 % 16 + 0xe0) % 2 ^ (7 - 3) * 64 + v / 64 % 64) * 64 + v % 64 = v := by
    omega
  rw [lossyFrom_lead (by omega) (by omega) lead (by decide),
    lossyFrom_more inside Nat.one_lt_two, payload_continuing,
    lossyFrom_last (continuing_inside v) rfl, payload_continuing, bits]

/-- The lead byte of four tells which second bytes may follow it, and the one that encodes the same
character is among them. -/
theorem leadByte_four (least : 0x10000 ≤ v) (most : v < 0x110000) :
    ∃ low high, leadByte (UInt8.ofNat (v / 262144 % 8 + 0xf0)) = some (low, high, 4) ∧
      low ≤ UInt8.ofNat (v / 4096 % 64 + 0x80) ∧ UInt8.ofNat (v / 4096 % 64 + 0x80) ≤ high := by
  simp only [leadByte_eq, UInt8.le_iff_toNat_le]
  rw [toNat_byte (n := v / 262144 % 8 + 0xf0) (by omega),
    toNat_byte (n := v / 4096 % 64 + 0x80) (by omega), if_neg (by omega), if_neg (by omega),
    if_neg (by omega), if_neg (by omega)]
  split_ifs <;> first
    | exact ⟨_, _, rfl, by simp only [UInt8.reduceToNat]; omega⟩
    | omega

/-- Four bytes that encode a character are decoded to it, up to the last code point. -/
theorem lossyFrom_four (least : 0x10000 ≤ v) (most : v < 0x110000) :
    lossyFrom none
        (UInt8.ofNat (v / 262144 % 8 + 0xf0) :: UInt8.ofNat (v / 4096 % 64 + 0x80) ::
          UInt8.ofNat (v / 64 % 64 + 0x80) :: UInt8.ofNat (v % 64 + 0x80) :: rest) =
      Char.ofNat v :: lossyFrom none rest := by
  obtain ⟨low, high, lead, inside⟩ := leadByte_four least most
  have bits : (((v / 262144 % 8 + 0xf0) % 2 ^ (7 - 4) * 64 + v / 4096 % 64) * 64 +
      v / 64 % 64) * 64 + v % 64 = v := by omega
  rw [lossyFrom_lead (by omega) (by omega) lead (by decide),
    lossyFrom_more inside (show 1 < 3 by decide), payload_continuing,
    lossyFrom_more (continuing_inside (v / 64)) Nat.one_lt_two, payload_continuing,
    lossyFrom_last (continuing_inside v) rfl, payload_continuing, bits]

/-- A character is read back from its bytes. -/
theorem lossyFrom_utf8EncodeChar (c : Char) :
    lossyFrom none (String.utf8EncodeChar c ++ rest) = c :: lossyFrom none rest := by
  have valid : c.val.toNat < 0xd800 ∨ 0xdfff < c.val.toNat ∧ c.val.toNat < 0x110000 := c.valid
  have back : Char.ofNat c.val.toNat = c := Char.ofNat_toNat c
  rw [String.utf8EncodeChar]
  split_ifs with one two three
  · exact (lossyFrom_ascii (by omega)).trans (by rw [back]; rfl)
  · exact (lossyFrom_two rest (by omega) two).trans (by rw [back])
  · exact (lossyFrom_three rest (by omega) three (by omega)).trans (by rw [back])
  · exact (lossyFrom_four rest (by omega) (by omega)).trans (by rw [back])

end Characters

/-- A text is read back from its bytes. -/
theorem lossy_bytes (s : String) : lossy (bytes s) = s.toList := by
  rw [lossy, bytes_eq]
  induction s.toList with
  | nil => rw [List.flatMap_nil, lossyFrom]
  | cons c cs ih => rw [List.flatMap_cons, lossyFrom_utf8EncodeChar, ih]

theorem bytes_inj {s t : String} (same : bytes s = bytes t) : s = t := by
  rw [← String.toList_inj, ← lossy_bytes s, same, lossy_bytes t]

end CollectionRunner.Text
