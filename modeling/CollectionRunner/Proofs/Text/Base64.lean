import CollectionRunner.Proofs.Text.Blank
import CollectionRunner.Proofs.Text.Lossy
import CollectionRunner.Text.Base64

/-!
# Base64 in one form

Every group of symbols that can be read is the one that is written for its bytes: padding fills a
short group up and nothing is left in its last symbol.  So reading accepts exactly what writing
produces (`decode_eq_ok_iff`).  The symbols of a text are no white space, so that the same holds of
texts.  Main statement: `texts_inverse`.
-/

namespace CollectionRunner

namespace Base64

/-! ## Symbols -/

theorem value?_symbol {n : ℕ} (small : n < 64) : value? (symbol n) = some n := by
  have all : ∀ n < 64, value? (symbol n) = some n := by decide
  exact all n small

/-- The symbols are the letters, the digits and two signs. -/
example : String.ofList ((List.range 64).map fun n => Char.ofNat (symbol n).toNat) =
    "ABCDEFGHIJKLMNOPQRSTUVWXYZabcdefghijklmnopqrstuvwxyz0123456789+/" := by decide

theorem value?_padding : value? padding = none := by decide

theorem symbol_ne_padding {n : ℕ} (small : n < 64) : symbol n ≠ padding := by
  intro same
  have read := value?_symbol small
  rw [same, value?_padding] at read
  cases read

theorem of_value? {b : UInt8} {n : ℕ} (read : value? b = some n) : n < 64 ∧ symbol n = b := by
  have all : ∀ k < 256, ∀ n ∈ value? (UInt8.ofNat k), n < 64 ∧ symbol n = UInt8.ofNat k := by
    decide +kernel
  have found := all b.toNat b.toNat_lt n
  rw [UInt8.ofNat_toNat] at found
  exact found read

/-- A byte is read as a value exactly when it is the symbol of that value. -/
theorem valueAt_eq_ok_iff {b : UInt8} {offset n : ℕ} :
    valueAt b offset = .ok n ↔ n < 64 ∧ symbol n = b := by
  unfold valueAt
  constructor
  · intro read
    split at read
    · rename_i found
      cases read
      exact of_value? found
    · cases read
  · rintro ⟨small, rfl⟩
    rw [value?_symbol small]

/-! ## Groups as they are written -/

section Groups

variable {a b c d : ℕ}

theorem encode_one (first : a < 64) (second : b < 64) (full : b % 16 = 0) :
    encode [UInt8.ofNat (a * 4 + b / 16)] = [symbol a, symbol b, padding, padding] := by
  rw [encode, Text.toNat_byte (by omega)]
  have high : (a * 4 + b / 16) / 4 = a := by omega
  have low : (a * 4 + b / 16) % 4 * 16 = b := by omega
  rw [high, low]

theorem encode_two (first : a < 64) (second : b < 64) (third : c < 64) (full : c % 4 = 0) :
    encode [UInt8.ofNat (a * 4 + b / 16), UInt8.ofNat (b % 16 * 16 + c / 4)] =
      [symbol a, symbol b, symbol c, padding] := by
  rw [encode, Text.toNat_byte (by omega), Text.toNat_byte (by omega)]
  have high : (a * 4 + b / 16) / 4 = a := by omega
  have middle : (a * 4 + b / 16) % 4 * 16 + (b % 16 * 16 + c / 4) / 16 = b := by omega
  have low : (b % 16 * 16 + c / 4) % 16 * 4 = c := by omega
  rw [high, middle, low]

/-- Three bytes are written as four symbols of six bits each. -/
theorem encode_three (first : a < 64) (second : b < 64) (third : c < 64) (fourth : d < 64)
    (rest : List UInt8) :
    encode (UInt8.ofNat (a * 4 + b / 16) :: UInt8.ofNat (b % 16 * 16 + c / 4) ::
        UInt8.ofNat (c % 4 * 64 + d) :: rest) =
      symbol a :: symbol b :: symbol c :: symbol d :: encode rest := by
  rw [encode, Text.toNat_byte (by omega), Text.toNat_byte (by omega), Text.toNat_byte (by omega)]
  have high : (a * 4 + b / 16) / 4 = a := by omega
  have left : (a * 4 + b / 16) % 4 * 16 + (b % 16 * 16 + c / 4) / 16 = b := by omega
  have right : (b % 16 * 16 + c / 4) % 16 * 4 + (c % 4 * 64 + d) / 64 = c := by omega
  have low : (c % 4 * 64 + d) % 64 = d := by omega
  rw [high, left, right, low]

end Groups

/-! ## The last group -/

/-- What is read of a last group: symbols, then padding, which there is none of before the third
symbol. -/
theorem lastValues_eq_ok {start i pads pads' : ℕ} {values values' : List ℕ} {group : List UInt8}
    (read : lastValues start i values pads group = .ok (values', pads')) :
    ∃ more k, values' = values ++ more ∧ pads' = pads + k ∧ (∀ n ∈ more, n < 64) ∧
      (0 < pads → more = []) ∧ group = more.map symbol ++ List.replicate k padding := by
  induction group generalizing i values pads with
  | nil =>
    cases read
    exact ⟨[], 0, (List.append_nil _).symm, rfl, nofun, fun _ => rfl, rfl⟩
  | cons b rest ih =>
    unfold lastValues at read
    split_ifs at read with fill early late
    · obtain ⟨more, k, rfl, rfl, small, only, rfl⟩ := ih read
      obtain rfl := only (Nat.succ_pos pads)
      refine ⟨[], k + 1, rfl, by omega, nofun, fun _ => rfl, ?_⟩
      rw [fill]
      rfl
    · cases value : valueAt b (start + i) with
      | error fault =>
        rw [value] at read
        cases read
      | ok n =>
        rw [value] at read
        obtain ⟨small, rfl⟩ := valueAt_eq_ok_iff.mp value
        obtain ⟨more, k, rfl, rfl, others, only, rfl⟩ := ih read
        refine ⟨n :: more, k, List.append_assoc _ _ _, rfl, ?_, fun after => absurd after late, rfl⟩
        exact List.forall_mem_cons.mpr ⟨small, others⟩

/-- The last group that is read is the one that its bytes are written as: it is empty, four symbols,
or padded with no bits left over. -/
theorem encode_of_decodeLast {start : ℕ} {group bytes : List UInt8} (short : group.length ≤ 4)
    (read : decodeLast start group = .ok bytes) : encode bytes = group := by
  unfold decodeLast at read
  cases taken : lastValues start 0 [] 0 group with
  | error fault =>
    rw [taken] at read
    cases read
  | ok pair =>
    obtain ⟨values, pads⟩ := pair
    obtain ⟨more, k, rfl, rfl, small, -, rfl⟩ := lastValues_eq_ok taken
    simp only [taken, Nat.zero_add, bind, Except.bind] at read
    match values with
    | [] =>
      simp only at read
      split_ifs at read with none
      cases read
      exact (List.isEmpty_iff.mp none).symm
    | [_] => cases read
    | [a, b] =>
      obtain ⟨first, second⟩ : a < 64 ∧ b < 64 := by simpa using small
      simp only at read
      split_ifs at read with filled full
      cases read
      obtain rfl : k = 2 := not_not.mp filled
      exact encode_one first second (not_not.mp full)
    | [a, b, c] =>
      obtain ⟨first, second, third⟩ : a < 64 ∧ b < 64 ∧ c < 64 := by simpa using small
      simp only at read
      split_ifs at read with filled full
      cases read
      obtain rfl : k = 1 := not_not.mp filled
      exact encode_two first second third (not_not.mp full)
    | a :: b :: c :: d :: others =>
      obtain ⟨first, second, third, fourth, -⟩ : a < 64 ∧ b < 64 ∧ c < 64 ∧ d < 64 ∧ _ := by
        simpa using small
      simp only [List.map_cons, List.cons_append, List.length_cons, List.length_append,
        List.length_map, List.length_replicate] at short
      obtain rfl : others = [] := List.length_eq_zero_iff.mp (by omega)
      obtain rfl : k = 0 := by omega
      cases read
      exact encode_three first second third fourth []

/-! ## Reading and writing -/

theorem eq_ok_of_bind {x : Except ε α} {f : α → Except ε β} {b : β} (bound : x >>= f = .ok b) :
    ∃ a, x = .ok a ∧ f a = .ok b := by
  cases x with
  | error => cases bound
  | ok a => exact ⟨a, rfl, bound⟩

/-- What can be read is what is written for what is read. -/
theorem encode_of_decodeFrom {start : ℕ} {symbols bytes : List UInt8}
    (read : decodeFrom start symbols = .ok bytes) : encode bytes = symbols := by
  fun_induction decodeFrom start symbols generalizing bytes with
  | case1 start a b c d e rest ih =>
    obtain ⟨x, first, read⟩ := eq_ok_of_bind read
    obtain ⟨y, second, read⟩ := eq_ok_of_bind read
    obtain ⟨z, third, read⟩ := eq_ok_of_bind read
    obtain ⟨w, fourth, read⟩ := eq_ok_of_bind read
    obtain ⟨after, others, read⟩ := eq_ok_of_bind read
    cases read
    obtain ⟨xSmall, rfl⟩ := valueAt_eq_ok_iff.mp first
    obtain ⟨ySmall, rfl⟩ := valueAt_eq_ok_iff.mp second
    obtain ⟨zSmall, rfl⟩ := valueAt_eq_ok_iff.mp third
    obtain ⟨wSmall, rfl⟩ := valueAt_eq_ok_iff.mp fourth
    rw [encode_three xSmall ySmall zSmall wSmall, ih others]
  | case2 start group last =>
    refine encode_of_decodeLast ?_ read
    match group with
    | [] | [_] | [_, _] | [_, _, _] | [_, _, _, _] => simp
    | a :: b :: c :: d :: e :: rest => exact (last a b c d e rest rfl).elim

theorem encode_ne_nil {bytes : List UInt8} (some : bytes ≠ []) : encode bytes ≠ [] := by
  match bytes with
  | [] => exact absurd rfl some
  | [_] | [_, _] | _ :: _ :: _ :: _ => exact List.cons_ne_nil _ _

theorem lastValues_padding {start i pads : ℕ} (late : 2 ≤ i) (values : List ℕ) (k : ℕ) :
    lastValues start i values pads (List.replicate k padding) = .ok (values, pads + k) := by
  induction k generalizing i pads with
  | zero => rfl
  | succ k ih =>
    rw [List.replicate_succ, lastValues, if_pos rfl, if_neg (Nat.not_lt.mpr late),
      ih (Nat.le_succ_of_le late), Nat.add_assoc, Nat.add_comm 1 k]

/-- Symbols and then padding after two of them at least are read as a last group. -/
theorem lastValues_group {start i k : ℕ} (values more : List ℕ)
    (small : ∀ n ∈ more, n < 64) (late : 2 ≤ i + more.length) :
    lastValues start i values 0 (more.map symbol ++ List.replicate k padding) =
      .ok (values ++ more, k) := by
  induction more generalizing i values with
  | nil =>
    rw [List.map_nil, List.nil_append, List.append_nil,
      lastValues_padding (show 2 ≤ i from late), Nat.zero_add]
  | cons n more ih =>
    obtain ⟨first, others⟩ := List.forall_mem_cons.mp small
    rw [List.length_cons] at late
    rw [List.map_cons, List.cons_append, lastValues, if_neg (symbol_ne_padding first),
      if_neg (Nat.lt_irrefl 0), valueAt_eq_ok_iff.mpr ⟨first, rfl⟩]
    refine (ih (values ++ [n]) others (by omega)).trans ?_
    rw [List.append_assoc, List.singleton_append]

section Groups

variable {start a b c d : ℕ}

theorem decodeLast_one (first : a < 64) (second : b < 64) (full : b % 16 = 0) :
    decodeLast start [symbol a, symbol b, padding, padding] = .ok [UInt8.ofNat (a * 4 + b / 16)] := by
  have taken : lastValues start 0 [] 0 [symbol a, symbol b, padding, padding] = .ok ([a, b], 2) :=
    lastValues_group [] [a, b] (k := 2) (by simp [first, second]) (by simp)
  rw [decodeLast, taken]
  exact if_neg (not_not.mpr full)

theorem decodeLast_two (first : a < 64) (second : b < 64) (third : c < 64) (full : c % 4 = 0) :
    decodeLast start [symbol a, symbol b, symbol c, padding] =
      .ok [UInt8.ofNat (a * 4 + b / 16), UInt8.ofNat (b % 16 * 16 + c / 4)] := by
  have taken : lastValues start 0 [] 0 [symbol a, symbol b, symbol c, padding] =
      .ok ([a, b, c], 1) :=
    lastValues_group [] [a, b, c] (k := 1) (by simp [first, second, third]) (by simp)
  rw [decodeLast, taken]
  exact if_neg (not_not.mpr full)

/-- Four symbols at the end are read as three bytes. -/
theorem decodeLast_three (first : a < 64) (second : b < 64) (third : c < 64) (fourth : d < 64) :
    decodeLast start [symbol a, symbol b, symbol c, symbol d] =
      .ok [UInt8.ofNat (a * 4 + b / 16), UInt8.ofNat (b % 16 * 16 + c / 4),
        UInt8.ofNat (c % 4 * 64 + d)] := by
  have taken : lastValues start 0 [] 0 [symbol a, symbol b, symbol c, symbol d] =
      .ok ([a, b, c, d], 0) :=
    lastValues_group [] [a, b, c, d] (k := 0) (by simp [first, second, third, fourth])
      (by simp)
  rw [decodeLast, taken]
  rfl

end Groups

theorem eq_of_toNat {n : ℕ} {b : UInt8} (same : n = b.toNat) : UInt8.ofNat n = b := by
  rw [same, UInt8.ofNat_toNat]

/-- What is written is read back. -/
theorem decodeFrom_encode (start : ℕ) (bytes : List UInt8) :
    decodeFrom start (encode bytes) = .ok bytes := by
  fun_induction encode bytes generalizing start with
  | case1 => rfl
  | case2 a =>
    have byte := a.toNat_lt
    refine (decodeLast_one (by omega) (by omega) (by omega)).trans ?_
    rw [eq_of_toNat (b := a) (by omega)]
  | case3 a b =>
    have byteA := a.toNat_lt
    have byteB := b.toNat_lt
    refine (decodeLast_two (by omega) (by omega) (by omega) (by omega)).trans ?_
    rw [eq_of_toNat (b := a) (by omega), eq_of_toNat (b := b) (by omega)]
  | case4 a b c rest ih =>
    have byteA := a.toNat_lt
    have byteB := b.toNat_lt
    have byteC := c.toNat_lt
    have first : UInt8.ofNat (a.toNat / 4 * 4 + (a.toNat % 4 * 16 + b.toNat / 16) / 16) = a :=
      eq_of_toNat (by omega)
    have second : UInt8.ofNat ((a.toNat % 4 * 16 + b.toNat / 16) % 16 * 16 +
        (b.toNat % 16 * 4 + c.toNat / 64) / 4) = b := eq_of_toNat (by omega)
    have third : UInt8.ofNat ((b.toNat % 16 * 4 + c.toNat / 64) % 4 * 64 + c.toNat % 64) = c :=
      eq_of_toNat (by omega)
    cases more : encode rest with
    | nil =>
      obtain rfl : rest = [] := not_not.mp (mt encode_ne_nil (not_not.mpr more))
      refine (decodeLast_three (by omega) (by omega) (by omega) (by omega)).trans ?_
      rw [first, second, third]
    | cons e others =>
      have later := ih (start + 4)
      rw [more] at later
      rw [decodeFrom, valueAt_eq_ok_iff.mpr ⟨show a.toNat / 4 < 64 by omega, rfl⟩,
        valueAt_eq_ok_iff.mpr ⟨show a.toNat % 4 * 16 + b.toNat / 16 < 64 by omega, rfl⟩,
        valueAt_eq_ok_iff.mpr ⟨show b.toNat % 16 * 4 + c.toNat / 64 < 64 by omega, rfl⟩,
        valueAt_eq_ok_iff.mpr ⟨show c.toNat % 64 < 64 by omega, rfl⟩, later]
      refine congrArg Except.ok ?_
      rw [first, second, third]

theorem length_encode (bytes : List UInt8) : (encode bytes).length % 4 = 0 := by
  fun_induction encode bytes with
  | case1 | case2 | case3 => simp
  | case4 a b c rest ih =>
    simp only [List.length_cons]
    omega

/-- Symbols are read as some bytes iff they are what is written for them. -/
theorem decode_eq_ok_iff {symbols bytes : List UInt8} :
    decode symbols = .ok bytes ↔ symbols = encode bytes := by
  unfold decode
  constructor
  · intro read
    split at read
    · split_ifs at read
      exact (encode_of_decodeFrom read).symm
    · rename_i none
      cases read
      exact List.getLast?_eq_none_iff.mp none
  · rintro rfl
    split
    · rw [if_neg (fun odd => by have := length_encode bytes; omega)]
      exact decodeFrom_encode 0 bytes
    · rename_i none
      rw [not_not.mp (mt encode_ne_nil (not_not.mpr (List.getLast?_eq_none_iff.mp none)))]

/-! ## Texts -/

/-- A byte that stands for a character of its own, which is no white space. -/
def Printed (b : UInt8) : Prop := b.toNat < 128 ∧ Text.blank (Char.ofNat b.toNat) = false

/-- A symbol is a character of one byte, and none is white space. -/
theorem printed_symbol (n : ℕ) : Printed (symbol n) := by
  have all : ∀ n < 64, (symbol n).toNat < 128 ∧ Text.blank (Char.ofNat (symbol n).toNat) = false := by
    decide
  rcases Nat.lt_or_ge n 64 with small | large
  · exact all n small
  · have last : symbol n = symbol 63 := by
      simp only [symbol]
      repeat rw [if_neg (by omega)]
    rw [last]
    exact all 63 (by decide)

theorem printed_padding : Printed padding := ⟨by decide, by decide⟩

theorem printed_encode (bytes : List UInt8) : ∀ b ∈ encode bytes, Printed b := by
  fun_induction encode bytes with
  | case1 => exact nofun
  | case2 | case3 => simp [printed_symbol, printed_padding]
  | case4 a b c rest ih =>
    simp only [List.forall_mem_cons, printed_symbol, true_and]
    exact ih

theorem utf8EncodeChar_of_printed {b : UInt8} (printed : Printed b) :
    String.utf8EncodeChar (Char.ofNat b.toNat) = [b] := by
  obtain ⟨ascii, -⟩ := printed
  have value : (Char.ofNat b.toNat).val.toNat = b.toNat :=
    (Char.toNat_ofNat b.toNat).trans (if_pos (.inl (by omega)))
  rw [String.utf8EncodeChar, value, if_pos (by omega), UInt8.ofNat_toNat]

/-- Bytes that can be written are those of their text. -/
theorem bytes_shown {symbols : List UInt8} (printed : ∀ b ∈ symbols, Printed b) :
    Text.bytes (String.ofList (symbols.map fun b => Char.ofNat b.toNat)) = symbols := by
  rw [Text.bytes_ofList]
  induction symbols with
  | nil => rfl
  | cons b rest ih =>
    obtain ⟨first, others⟩ := List.forall_mem_cons.mp printed
    rw [List.map_cons, List.flatMap_cons, utf8EncodeChar_of_printed first, ih others]
    rfl

theorem trim_shown {symbols : List UInt8} (printed : ∀ b ∈ symbols, Printed b) :
    Text.trim (String.ofList (symbols.map fun b => Char.ofNat b.toNat)) =
      String.ofList (symbols.map fun b => Char.ofNat b.toNat) := by
  have solid : ∀ c ∈ symbols.map fun b => Char.ofNat b.toNat, Text.blank c = false := by
    intro c member
    obtain ⟨b, inside, rfl⟩ := List.mem_map.mp member
    exact (printed b inside).2
  rw [Text.trim, String.toList_ofList, Text.trimmed_of_solid solid]

theorem bytes_encodeText (s : String) : Text.bytes (encodeText s) = encode (Text.bytes s) :=
  bytes_shown (printed_encode _)

theorem trim_encodeText (s : String) : Text.trim (encodeText s) = encodeText s :=
  trim_shown (printed_encode _)

theorem decodeText_eq {x : String} {bytes : List UInt8}
    (read : decode (Text.bytes (Text.trim x)) = .ok bytes) :
    decodeText x = .ok (String.ofList (Text.lossy bytes)) := by
  rw [decodeText, read]
  rfl

/-- A text is read back from its symbols.  What can be read is, without the white space around it,
what is written for the text that is read, if the bytes are those of a text. -/
theorem texts_inverse :
    (∀ s, decodeText (encodeText s) = .ok s) ∧
    ∀ x bytes, decode (Text.bytes (Text.trim x)) = .ok bytes → bytes.toByteArray.IsValidUTF8 →
      ∃ s, decodeText x = .ok s ∧ Text.bytes s = bytes ∧ encodeText s = Text.trim x := by
  refine ⟨?_, ?_⟩
  · intro s
    have read : decode (Text.bytes (Text.trim (encodeText s))) = .ok (Text.bytes s) := by
      rw [trim_encodeText, bytes_encodeText]
      exact decode_eq_ok_iff.mpr rfl
    rw [decodeText_eq read, Text.lossy_bytes, String.ofList_toList]
  · intro x bytes read valid
    obtain ⟨cs, same⟩ := valid
    obtain rfl : Text.bytes (String.ofList cs) = bytes := by
      have listed := congrArg (·.data.toList) same
      simp only [List.utf8Encode, List.toList_data_toByteArray] at listed
      rw [Text.bytes_ofList, listed]
    refine ⟨String.ofList cs, ?_, rfl, ?_⟩
    · rw [decodeText_eq read, Text.lossy_bytes, String.ofList_toList]
    · refine Text.bytes_inj ?_
      rw [bytes_encodeText, ← decode_eq_ok_iff.mp read]

/-- The text "i" from its symbols with padding and white space around them. -/
theorem texts_inverse_of_spaced :
    decode (Text.bytes (Text.trim " aQ==\n")) = .ok [105] ∧
    [(105 : UInt8)].toByteArray.IsValidUTF8 ∧
    ∃ s, decodeText " aQ==\n" = .ok s ∧ Text.bytes s = [105] ∧
      encodeText s = Text.trim " aQ==\n" := by
  have read : decode (Text.bytes (Text.trim " aQ==\n")) = .ok [105] := by cbv
  have valid : [(105 : UInt8)].toByteArray.IsValidUTF8 := ⟨['i'], by decide⟩
  exact ⟨read, valid, texts_inverse.2 _ _ read valid⟩

end Base64

end CollectionRunner
