import CollectionRunner.Proofs.Number.Nearest

/-!
# Rounding keeps the order

A quotient of doubles is rounded to a double that no double separates from the exact quotient
(`Rounded`), however small it is.  So a bound on the exact quotient that is a double itself is a bound
on the rounded one (`div_rounded`).  Doubles that are not negative are compared like the numbers they
stand for (`Amount.le_iff`).
-/

namespace CollectionRunner.Number

open Float.Model UnpackedFloat

/-! ## Numbers that are not negative -/

/-- Parts stand for a number that is not negative. -/
inductive Amount : UnpackedFloat → ℚ → Prop
  | zero {s : Sign} : Amount (.zero s) 0
  | finite {m : ℕ} {e : ℤ} {pos : 0 < m} : Amount (.finite .positive m e pos) (m * 2 ^ e)

namespace Amount

variable {f : UnpackedFloat} {x : ℚ}

/-- The number as the quotient that the fields of the double make. -/
theorem quotient {x : Float} {a : ℚ} (amount : Amount (parts x) a) :
    (((binary x).significand * twoTo (binary x).exponent.toNat : ℕ) : ℚ) /
      (twoTo (-(binary x).exponent).toNat : ℕ) = a := by
  have two (n : ℕ) : ((twoTo n : ℕ) : ℚ) = 2 ^ n := by exact_mod_cast rfl
  generalize taken : parts x = f at amount
  cases amount with
  | zero =>
    rw [binary_of_zero taken, Nat.zero_mul, Nat.cast_zero, zero_div]
  | @finite m e =>
    rw [(binary_of_finite taken).1, Nat.cast_mul, two, two, mul_div_assoc, ← zpow_natCast,
      ← zpow_natCast, ← zpow_sub₀ two_ne_zero]
    have exponent : ((e.toNat : ℕ) : ℤ) - ((-e).toNat : ℕ) = e := by omega
    exact congrArg (fun k : ℤ => (m : ℚ) * 2 ^ k) exponent

/-- The numbers that doubles stand for are bounded. -/
theorem lt (amount : Amount f x) (canonical : Canonical f) : x < 2 ^ (1024 : ℤ) := by
  cases amount with
  | zero => exact zpow_pos two_pos _
  | @finite m e =>
    obtain ⟨upper, -, greatest, -⟩ := canonical
    calc (m * 2 ^ e : ℚ) < (2 ^ 53 : ℕ) * 2 ^ e :=
          mul_lt_mul_of_pos_right (by exact_mod_cast upper) (zpow_pos two_pos e)
      _ ≤ (2 ^ 53 : ℕ) * 2 ^ (971 : ℤ) :=
        mul_le_mul_of_nonneg_left (zpow_le_zpow_right₀ one_le_two greatest) (Nat.cast_nonneg _)
      _ = 2 ^ (1024 : ℤ) := by
        rw [Nat.cast_pow, Nat.cast_ofNat]
        exact (two_zpow_eq 53 (by norm_num)).symm

end Amount

theorem Value.amount {f : UnpackedFloat} {x : ℚ} (value : Value f x) : Amount f x := by
  cases value with
  | zero => exact .zero
  | full => exact .finite

/-! ## What rounding leaves between a number and its double -/

/-- A number that doubles have room for, whatever its size. -/
def Spaced (b : ℚ) : Prop := ∃ (c : ℕ) (j : ℤ), c ≤ 2 ^ 53 ∧ -1074 ≤ j ∧ b = c * 2 ^ j

/-- No double lies between two numbers. -/
structure Rounded (q x : ℚ) : Prop where
  below : ∀ b, Spaced b → x ≤ b → q ≤ b
  above : ∀ b, Spaced b → b ≤ x → b ≤ q

namespace Represents

variable {em : ExtendedMantissa} {x : ℚ}

theorem rounded_le_of_le (stands : Represents em x) {n : ℕ} (upper : x ≤ n) :
    em.roundedMantissa ≤ n := by
  obtain ⟨-, above⟩ := abs_le.mp stands.near
  have next : (em.roundedMantissa : ℚ) < n + 1 := by linarith
  exact Nat.lt_add_one_iff.mp (by exact_mod_cast next)

/-- Rounding at an exponent keeps the order, if the numbers that doubles have room for are whole at it
or the significand is full. -/
theorem rounded_scale {k : ℤ} (stands : Represents em (x / 2 ^ k))
    (full : k = -1074 ∨ 2 ^ 52 ≤ x / 2 ^ k) : Rounded (em.roundedMantissa * 2 ^ k) x := by
  have unit : (0 : ℚ) < 2 ^ k := zpow_pos two_pos k
  -- in units of `2 ^ k`, a number that doubles have room for is whole or no more than `2 ^ 52`
  have whole (b : ℚ) (spaced : Spaced b) :
      (∃ n : ℕ, b = n * 2 ^ k) ∨ (b ≤ 2 ^ 52 * 2 ^ k ∧ 2 ^ 52 ≤ x / 2 ^ k) := by
    obtain ⟨c, j, room, least, rfl⟩ := spaced
    rcases le_or_gt k j with coarse | fine
    · obtain ⟨n, raised⟩ := Int.le.dest coarse
      refine .inl ⟨c * 2 ^ n, ?_⟩
      rw [two_zpow_eq n (show j = n + k by omega)]
      push_cast
      ring
    · refine .inr ⟨?_, full.resolve_left (by omega)⟩
      have next : (2 : ℚ) ^ j ≤ 2 ^ (k - 1) :=
        zpow_le_zpow_right₀ one_le_two (by omega)
      have half : (2 : ℚ) ^ k = 2 ^ 1 * 2 ^ (k - 1) := two_zpow_eq 1 (by omega)
      calc (c : ℚ) * 2 ^ j ≤ 2 ^ 53 * 2 ^ (k - 1) := by
            refine mul_le_mul (by exact_mod_cast room) next (zpow_pos two_pos j).le (by norm_num)
        _ = 2 ^ 52 * 2 ^ k := by rw [half]; ring
  constructor
  · intro b spaced upper
    rcases whole b spaced with ⟨n, rfl⟩ | ⟨small, large⟩
    · have fits : em.roundedMantissa ≤ n := stands.rounded_le_of_le ((div_le_iff₀ unit).mpr upper)
      exact mul_le_mul_of_nonneg_right (by exact_mod_cast fits) unit.le
    · have least : x ≤ 2 ^ 52 * 2 ^ k := upper.trans small
      have same : x / 2 ^ k = (2 ^ 52 : ℕ) := by
        push_cast
        exact le_antisymm ((div_le_iff₀ unit).mpr least) large
      have fits := stands.rounded_le_of_le same.le
      calc (em.roundedMantissa : ℚ) * 2 ^ k ≤ (2 ^ 52 : ℕ) * 2 ^ k :=
            mul_le_mul_of_nonneg_right (by exact_mod_cast fits) unit.le
        _ = x := by rw [← same, div_mul_cancel₀ _ unit.ne']
        _ ≤ b := upper
  · intro b spaced lower
    rcases whole b spaced with ⟨n, rfl⟩ | ⟨small, large⟩
    · have fits : n ≤ em.roundedMantissa := stands.le_rounded ((le_div_iff₀ unit).mpr lower)
      exact mul_le_mul_of_nonneg_right (by exact_mod_cast fits) unit.le
    · have fits : 2 ^ 52 ≤ em.roundedMantissa := stands.le_rounded (by exact_mod_cast large)
      exact small.trans (mul_le_mul_of_nonneg_right (by exact_mod_cast fits) unit.le)

end Represents

namespace Bits

variable {m : ℕ} {e : ℤ} {accuracy : Accuracy} {x : ℚ}

/-- The leading bit of a significand is below the power of two that bounds the number. -/
theorem size_lt (bits : Bits m e accuracy x) {n : ℕ} (bound : x < 2 ^ (n : ℤ)) :
    (m.log2 : ℤ) + e < n := by
  rcases Nat.eq_zero_or_pos m with rfl | pos
  · have fine := bits.fine
    rw [Nat.log2_zero] at fine ⊢
    omega
  · refine (zpow_lt_zpow_iff_right₀ (one_lt_two (α := ℚ))).mp (lt_of_le_of_lt ?_ bound)
    have unit : (0 : ℚ) < 2 ^ e := zpow_pos two_pos e
    calc (2 : ℚ) ^ ((m.log2 : ℤ) + e) = 2 ^ m.log2 * 2 ^ e := two_zpow_eq _ rfl
      _ ≤ m * 2 ^ e := by
        refine mul_le_mul_of_nonneg_right ?_ unit.le
        exact_mod_cast Nat.log2_self_le pos.ne'
      _ ≤ x := (le_div_iff₀ unit).mp bits.stands.significand_bounds.1

/-- The number is rounded in order. -/
theorem rounded (bits : Bits m e accuracy x) (bound : x < 2 ^ (1023 : ℤ)) :
    ∃ q, Amount (roundWithAccuracy .binary64 .positive m e accuracy) q ∧
      Canonical (roundWithAccuracy .binary64 .positive m e accuracy) ∧ Rounded q x := by
  have size := bits.size_lt (n := 1023) bound
  obtain ⟨em, k, first, stands, upper, least, full, top⟩ := bits.cut
  obtain ⟨final, j, ended, finalUpper, lower, next, room, same⟩ :=
    shiftToTargetExponent_fits (stands.rounded_le upper) least
  have order := stands.rounded_scale full
  rw [← same] at order
  unfold roundWithAccuracy
  simp only [first, ended]
  split
  · rename_i none
    rw [none, Nat.cast_zero, zero_mul] at order
    exact ⟨0, .zero, trivial, order⟩
  · refine ⟨_, .finite, ⟨finalUpper, by omega, by omega, ?_⟩, order⟩
    rcases room with large | ⟨kept, rfl⟩
    · exact .inl large
    · rcases full with bottom | large
      · exact .inr bottom
      · rw [kept]
        exact .inl (stands.le_rounded (by exact_mod_cast large))

end Bits

/-- A quotient is rounded in order. -/
theorem div_rounded {f g : UnpackedFloat} {x y : ℚ} (first : Amount f x) (second : Amount g y)
    (pos : 0 < y) (bound : x / y < 2 ^ (1023 : ℤ)) :
    ∃ q, Amount (UnpackedFloat.div .binary64 f g) q ∧
      Canonical (UnpackedFloat.div .binary64 f g) ∧ Rounded q (x / y) := by
  cases second with
  | zero => exact absurd rfl pos.ne'
  | @finite n k posN =>
    cases first with
    | zero =>
      rw [zero_div]
      exact ⟨0, .zero, trivial, ⟨fun _ _ upper => upper, fun _ _ lower => lower⟩⟩
    | @finite m e posM =>
      obtain ⟨whole, t, accuracy, core, bits⟩ := divCore_bits posM posN e k
      have divided : UnpackedFloat.div .binary64 (.finite .positive m e posM)
          (.finite .positive n k posN) = roundWithAccuracy .binary64 .positive whole t accuracy := by
        rw [UnpackedFloat.div, core]
        rfl
      rw [divided]
      exact bits.rounded bound

/-! ## Comparisons -/

/-- Of full significands the one with the larger exponent weighs more. -/
theorem weight_lt {m n : ℕ} {e k : ℤ} {pos : 0 < m} {posN : 0 < n} {s : Sign}
    (first : Canonical (.finite s m e pos)) (second : Canonical (.finite s n k posN))
    (less : e < k) : (m * 2 ^ e : ℚ) < n * 2 ^ k := by
  obtain ⟨upper, least, -, -⟩ := first
  obtain ⟨-, -, -, full⟩ := second
  have lower : 2 ^ 52 ≤ n := full.resolve_right (by omega)
  have half : (2 : ℚ) ^ k = 2 ^ 1 * 2 ^ (k - 1) := two_zpow_eq 1 (by omega)
  have next : (2 : ℚ) ^ e ≤ 2 ^ (k - 1) := zpow_le_zpow_right₀ one_le_two (by omega)
  calc (m * 2 ^ e : ℚ) < (2 ^ 53 : ℕ) * 2 ^ e :=
        mul_lt_mul_of_pos_right (by exact_mod_cast upper) (zpow_pos two_pos e)
    _ ≤ (2 ^ 53 : ℕ) * 2 ^ (k - 1) := mul_le_mul_of_nonneg_left next (Nat.cast_nonneg _)
    _ = (2 ^ 52 : ℕ) * 2 ^ k := by
      rw [half]
      push_cast
      ring
    _ ≤ n * 2 ^ k :=
      mul_le_mul_of_nonneg_right (by exact_mod_cast lower) (zpow_pos two_pos k).le

/-- Parts of doubles are compared like the numbers they stand for. -/
theorem Amount.le_iff {f g : UnpackedFloat} {x y : ℚ} (first : Amount f x) (second : Amount g y)
    (fCanonical : Canonical f) (gCanonical : Canonical g) : f.le g = true ↔ x ≤ y := by
  cases first with
  | zero =>
    cases second with
    | zero => exact ⟨fun _ => le_refl 0, fun _ => rfl⟩
    | @finite n k pos => exact ⟨fun _ => (Value.pos pos k).le, fun _ => rfl⟩
  | @finite m e posM =>
    cases second with
    | zero => exact ⟨fun less => (nomatch less), fun less => absurd less (Value.pos posM e).not_ge⟩
    | @finite n k posN =>
      have compared : UnpackedFloat.le (.finite .positive m e posM) (.finite .positive n k posN) =
          ((compare e k).then (compare m n)).isLE := rfl
      rw [compared]
      rcases lt_trichotomy e k with less | rfl | more
      · rw [compare_lt_iff_lt.mpr less]
        exact ⟨fun _ => (weight_lt fCanonical gCanonical less).le, fun _ => rfl⟩
      · rw [compare_eq_iff_eq.mpr rfl, Ordering.eq_then, Nat.isLE_compare,
          mul_le_mul_iff_of_pos_right (zpow_pos two_pos e), Nat.cast_le]
      · rw [compare_gt_iff_gt.mpr more]
        exact ⟨fun less => (nomatch less),
          fun less => absurd less (weight_lt gCanonical fCanonical more).not_ge⟩

/-- A double below another with a full significand is no more than the one just below that. -/
theorem le_previous {m c : ℕ} {e j : ℤ} {pos : 0 < m} {s : Sign}
    (canonical : Canonical (.finite s m e pos)) (lower : 2 ^ 52 < c) (upper : c ≤ 2 ^ 53)
    (least : -1074 ≤ j) (less : (m * 2 ^ e : ℚ) < c * 2 ^ j) :
    (m * 2 ^ e : ℚ) ≤ (c - 1 : ℕ) * 2 ^ j := by
  obtain ⟨short, -, -, full⟩ := canonical
  have unit : (0 : ℚ) < 2 ^ j := zpow_pos two_pos j
  rcases lt_trichotomy e j with fine | rfl | coarse
  · have half : (2 : ℚ) ^ j = 2 ^ 1 * 2 ^ (j - 1) := two_zpow_eq 1 (by omega)
    have next : (2 : ℚ) ^ e ≤ 2 ^ (j - 1) := zpow_le_zpow_right₀ one_le_two (by omega)
    calc (m * 2 ^ e : ℚ) ≤ (2 ^ 53 : ℕ) * 2 ^ (j - 1) :=
          mul_le_mul (by exact_mod_cast short.le) next (zpow_pos two_pos e).le (Nat.cast_nonneg _)
      _ = (2 ^ 52 : ℕ) * 2 ^ j := by
        rw [half]
        push_cast
        ring
      _ ≤ (c - 1 : ℕ) * 2 ^ j :=
        mul_le_mul_of_nonneg_right (by exact_mod_cast Nat.le_sub_one_of_lt lower) unit.le
  · have fewer : m < c := by exact_mod_cast lt_of_mul_lt_mul_right less unit.le
    exact mul_le_mul_of_nonneg_right (by exact_mod_cast Nat.le_sub_one_of_lt fewer) unit.le
  · have large : 2 ^ 52 ≤ m := full.resolve_right (by omega)
    have next : (2 : ℚ) ^ (j + 1) ≤ 2 ^ e := zpow_le_zpow_right₀ one_le_two (by omega)
    refine absurd less (not_lt.mpr ?_)
    calc (c * 2 ^ j : ℚ) ≤ (2 ^ 53 : ℕ) * 2 ^ j :=
          mul_le_mul_of_nonneg_right (by exact_mod_cast upper) unit.le
      _ = (2 ^ 52 : ℕ) * 2 ^ (j + 1) := by
        rw [two_zpow_eq 1 (add_comm j 1)]
        push_cast
        ring
      _ ≤ m * 2 ^ e :=
        mul_le_mul (by exact_mod_cast large) next (zpow_pos two_pos _).le (Nat.cast_nonneg _)

end CollectionRunner.Number
