import CollectionRunner.Number.Layout
import CollectionRunner.Number.Parse
import CollectionRunner.Proofs.Number.Shortest

/-!
# Digits and the numbers they stand for

A text of digits with or without a point stands for one number (`placeValue`).  The positional text
of a decimal stands for the decimal (`Decimal.positional_spells`), and doubles are never so large or
so small that their plain text gets an exponent (`plainText_of_finite`).
-/

namespace CollectionRunner.Number

open Float.Model UnpackedFloat

/-! ## Digits -/

theorem digitsValue_eq (ds : List Char) : digitsValue ds = Nat.ofDigitChars 10 ds 0 := by
  unfold digitsValue Nat.ofDigitChars
  congr
  funext n c
  rw [Nat.mul_comm]

theorem digitsValue_toDigits (n : ℕ) : digitsValue (Nat.toDigits 10 n) = n := by
  rw [digitsValue_eq]
  exact Nat.ofDigitChars_ten_toDigits

theorem digitsValue_zeros_after (ds : List Char) (n : ℕ) :
    digitsValue (ds ++ List.replicate n '0') = digitsValue ds * 10 ^ n := by
  rw [digitsValue_eq, digitsValue_eq, Nat.ofDigitChars_append, Nat.ofDigitChars_replicate_zero,
    Nat.mul_comm]

theorem digitsValue_zeros_before (n : ℕ) (ds : List Char) :
    digitsValue (List.replicate n '0' ++ ds) = digitsValue ds := by
  rw [digitsValue_eq, digitsValue_eq, Nat.ofDigitChars_append, Nat.ofDigitChars_replicate_zero,
    Nat.mul_zero]

theorem isDigit_of_mem_toDigits {n : ℕ} {c : Char} (member : c ∈ Nat.toDigits 10 n) : c.isDigit :=
  Nat.isDigit_of_mem_toDigits (by decide) (by decide) member

/-! ## Digits with a point -/

/-- The number that digits with or without a point stand for. -/
def placeValue (cs : List Char) : ℚ :=
  let whole := cs.takeWhile (· != '.')
  let fraction := (cs.dropWhile (· != '.')).tail
  digitsValue (whole ++ fraction) / 10 ^ fraction.length

/-- Digits without a point stand for what they are worth together. -/
theorem placeValue_of_digits {ds : List Char} (digits : ∀ c ∈ ds, c.isDigit) :
    placeValue ds = digitsValue ds := by
  have noPoint : ∀ c ∈ ds, (c != '.') = true := by
    intro c member
    refine bne_iff_ne.mpr ?_
    rintro rfl
    cases digits _ member
  unfold placeValue
  rw [List.takeWhile_eq_self_iff.mpr noPoint, List.dropWhile_eq_nil_iff.mpr noPoint]
  simp

/-- Digits with a point stand for what all of them are worth, over a power of ten for those behind
the point. -/
theorem placeValue_of_point {whole : List Char} (digits : ∀ c ∈ whole, c.isDigit)
    (fraction : List Char) :
    placeValue (whole ++ '.' :: fraction) =
      digitsValue (whole ++ fraction) / 10 ^ fraction.length := by
  have noPoint : ∀ c ∈ whole, (c != '.') = true := by
    intro c member
    refine bne_iff_ne.mpr ?_
    rintro rfl
    cases digits _ member
  unfold placeValue
  rw [List.takeWhile_append_of_pos noPoint, List.dropWhile_append_of_pos noPoint]
  simp

/-- The text is made of digits and points, starts with a digit and stands for the number. -/
structure Spells (cs : List Char) (q : ℚ) : Prop where
  plain : ∀ c ∈ cs, c.isDigit ∨ c = '.'
  head : ∃ c rest, cs = c :: rest ∧ c.isDigit
  value : placeValue cs = q

theorem Spells.of_digits {ds : List Char} (digits : ∀ c ∈ ds, c.isDigit) (some : ds ≠ []) :
    Spells ds (digitsValue ds) where
  plain c member := .inl (digits c member)
  head := by
    obtain ⟨c, rest, rfl⟩ := List.exists_cons_of_ne_nil some
    exact ⟨c, rest, rfl, digits c List.mem_cons_self⟩
  value := placeValue_of_digits digits

/-- A text of digits with a point among them, and what it stands for. -/
theorem Spells.of_point {whole fraction : List Char} {n places : ℕ}
    (digits : ∀ c ∈ whole ++ fraction, c.isDigit) (some : whole ≠ [])
    (read : digitsValue (whole ++ fraction) = n) (length : fraction.length = places) :
    Spells (whole ++ '.' :: fraction) (n / 10 ^ places) where
  plain c member := by
    rcases List.mem_append.mp member with member | member
    · exact .inl (digits c (List.mem_append_left _ member))
    · refine (List.mem_cons.mp member).elim .inr fun member => .inl ?_
      exact digits c (List.mem_append_right _ member)
  head := by
    obtain ⟨c, rest, rfl⟩ := List.exists_cons_of_ne_nil some
    exact ⟨c, _, rfl, digits c List.mem_cons_self⟩
  value := by
    rw [placeValue_of_point (fun c member => digits c (List.mem_append_left _ member)), read,
      length]

theorem spells_repr (n : ℕ) : Spells n.repr.toList n := by
  have spells := Spells.of_digits (fun c => isDigit_of_mem_toDigits (n := n)) Nat.toDigits_ne_nil
  rw [digitsValue_toDigits] at spells
  rwa [Nat.toList_repr]

/-! ## Decimals -/

namespace Decimal

theorem value_of_places {d : Decimal} (fraction : d.exponent < 0) :
    d.value = d.coefficient / 10 ^ (-d.exponent).toNat := by
  rw [value, div_eq_mul_inv, ← zpow_natCast, ← zpow_neg]
  congr 2
  omega

/-- The positional text of a decimal stands for the decimal. -/
theorem positional_spells (d : Decimal) : Spells d.positional.toList d.value := by
  have digits : ∀ c ∈ d.digits, c.isDigit := fun c => isDigit_of_mem_toDigits
  have some : d.digits ≠ [] := Nat.toDigits_ne_nil
  have read : digitsValue d.digits = d.coefficient := digitsValue_toDigits _
  have zeros (n : ℕ) : ∀ c ∈ List.replicate n '0', c.isDigit := by
    intro c member
    rw [List.eq_of_mem_replicate member]
    rfl
  unfold positional
  dsimp only
  split
  · rename_i whole
    have spells := Spells.of_digits (List.forall_mem_append.mpr ⟨digits, zeros d.exponent.toNat⟩)
      (List.append_ne_nil_of_left_ne_nil some _)
    have same : ((d.coefficient * 10 ^ d.exponent.toNat : ℕ) : ℚ) = d.value := by
      rw [value]
      push_cast
      rw [← zpow_natCast, Int.toNat_of_nonneg whole]
    rw [digitsValue_zeros_after, read, same] at spells
    rwa [String.toList_ofList]
  · rename_i fraction
    rw [value_of_places (by omega)]
    generalize (-d.exponent).toNat = places
    split
    · rename_i inside
      rw [String.toList_ofList]
      refine Spells.of_point ?_ ?_ ?_ ?_
      · rwa [List.take_append_drop]
      · refine List.ne_nil_of_length_pos ?_
        rw [List.length_take]
        omega
      · rwa [List.take_append_drop]
      · rw [List.length_drop]
        omega
    · rename_i outside
      rw [String.toList_ofList]
      change Spells (['0'] ++ '.' :: _) _
      refine Spells.of_point ?_ (List.cons_ne_nil _ _) ?_ ?_
      · exact List.forall_mem_append.mpr ⟨zeros 1, List.forall_mem_append.mpr ⟨zeros _, digits⟩⟩
      · exact (digitsValue_zeros_before (places - d.digits.length + 1) d.digits).trans read
      · rw [List.length_append, List.length_replicate]
        omega

/-- The leading digit of a decimal stands at its leading exponent. -/
theorem leading_bounds {d : Decimal} (pos : 0 < d.coefficient) :
    10 ^ d.leading ≤ d.value ∧ d.value < 10 ^ (d.leading + 1) := by
  have digits : 0 < digitCount d.coefficient := Nat.length_toDigits_pos
  have lower : (10 : ℚ) ^ (digitCount d.coefficient - 1) ≤ d.coefficient := by
    exact_mod_cast tenTo_le_of_digitCount pos
  have upper : (d.coefficient : ℚ) < 10 ^ digitCount d.coefficient := by
    exact_mod_cast lt_tenTo_digitCount d.coefficient
  have unit : (0 : ℚ) < 10 ^ d.exponent := zpow_pos (by norm_num) _
  have leading : d.leading = (digitCount d.coefficient - 1 : ℕ) + d.exponent := by
    change d.exponent + (digitCount d.coefficient : ℤ) - 1 = _
    omega
  have next : d.leading + 1 = digitCount d.coefficient + d.exponent := by omega
  rw [next, leading, zpow_add₀ (by norm_num), zpow_add₀ (by norm_num), zpow_natCast, zpow_natCast]
  exact ⟨mul_le_mul_of_nonneg_right lower unit.le, mul_lt_mul_of_pos_right upper unit⟩

theorem coefficient_pos {d : Decimal} (pos : 0 < d.value) : 0 < d.coefficient := by
  refine Nat.pos_of_ne_zero fun zero => ?_
  rw [value, zero, Nat.cast_zero, zero_mul] at pos
  exact absurd pos (lt_irrefl 0)

end Decimal

/-! ## Plain texts -/

theorem two_zpow_lt_ten_zpow {k : ℤ} (small : k < 1200) : (2 : ℚ) ^ k < 10 ^ (400 : ℤ) :=
  calc (2 : ℚ) ^ k < 2 ^ (3 * 400 : ℤ) := (zpow_lt_zpow_iff_right₀ one_lt_two).mpr (by omega)
    _ = (2 ^ (3 : ℤ)) ^ (400 : ℤ) := zpow_mul 2 3 400
    _ ≤ 10 ^ (400 : ℤ) := zpow_le_zpow_left₀ (by decide) (by norm_num) (by norm_num)

/-- What rounds to a double has its leading digit within four hundred places of the point. -/
theorem Binary.Around.leading {b : Binary} (full : b.Full) {d : Decimal}
    (around : b.Around d.value) : -400 ≤ d.leading ∧ d.leading < 400 := by
  obtain ⟨lower, upper⟩ := Decimal.leading_bounds (Decimal.coefficient_pos (around.pos full))
  have ten : (1 : ℚ) < 10 := by norm_num
  constructor
  · have small : (10 : ℚ) ^ (-400 : ℤ) < 10 ^ (d.leading + 1) :=
      calc (10 : ℚ) ^ (-400 : ℤ) ≤ 2 ^ (-1075 : ℤ) := by
            rw [zpow_neg, zpow_neg]
            exact inv_anti₀ (zpow_pos two_pos _) (two_zpow_lt_ten_zpow (by decide)).le
        _ ≤ d.value := full.le_start.trans around.above
        _ < 10 ^ (d.leading + 1) := upper
    have := (zpow_lt_zpow_iff_right₀ ten).mp small
    omega
  · have large : (10 : ℚ) ^ d.leading < 10 ^ (400 : ℤ) :=
      calc (10 : ℚ) ^ d.leading ≤ d.value := lower
        _ ≤ 2 ^ (1024 : ℤ) := around.below.trans full.stop_le
        _ < 10 ^ (400 : ℤ) := two_zpow_lt_ten_zpow (by decide)
    exact (zpow_lt_zpow_iff_right₀ ten).mp large

/-- A finite double other than zero is written without exponent. -/
theorem plainText_of_finite {x : Float} {s : Sign} {m : ℕ} {e : ℤ} {pos : 0 < m}
    (taken : parts x = .finite s m e pos) :
    plainText x = (if signed x then "-" else "") ++ (shortest x).positional := by
  have finite : finite x = true := by rw [finite_eq, taken]; rfl
  have number : notANumber x = false := by rw [notANumber_eq, taken]; rfl
  obtain ⟨least, bound⟩ := (shortest_around taken).leading (Binary.full_of_parts taken)
  unfold plainText Layout.text
  rw [number, finite]
  simp [least, bound]

end CollectionRunner.Number
