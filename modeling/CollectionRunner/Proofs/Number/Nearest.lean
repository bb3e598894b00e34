import CollectionRunner.Proofs.Number.Double

/-!
# How far the operations of doubles are off

A sum, product or quotient of doubles is the exact one, rounded to the nearest double.  The
arithmetic keeps the exact number as a significand with two more bits while it cuts the significand
to 53 bits (`Represents`), so a result of ordinary size is off by a part in `2 ^ 53` at most
(`Off`).  `Holds x q` says that a double stands for a number, zero or one with a full significand,
and each operation is one lemma about it.  `Drifts k q x` counts the roundings between two numbers;
five of them are less than a part in `2 ^ 50` (`Drifts.near`).
-/

namespace CollectionRunner.Number

open Float.Model UnpackedFloat

/-! ## What is kept of a number that is cut -/

/-- A significand and its two residual bits stand for a number: the significand is its whole part,
and the bits say where the rest lies between zero, a half and one. -/
def Represents (em : ExtendedMantissa) (x : ℚ) : Prop :=
  match em.roundBit, em.stickyBit with
  | false, false => x = em.mantissa
  | false, true => (em.mantissa : ℚ) < x ∧ x < em.mantissa + 1 / 2
  | true, false => x = em.mantissa + 1 / 2
  | true, true => (em.mantissa : ℚ) + 1 / 2 < x ∧ x < em.mantissa + 1

namespace Represents

variable {em : ExtendedMantissa} {x : ℚ}

theorem bounds (stands : Represents em x) : (em.mantissa : ℚ) ≤ x ∧ x < em.mantissa + 1 := by
  obtain ⟨m, half, rest⟩ := em
  cases half <;> cases rest <;> simp only [Represents] at stands ⊢ <;> constructor <;> linarith

/-- Rounding takes the nearest whole number. -/
theorem near (stands : Represents em x) : |(em.roundedMantissa : ℚ) - x| ≤ 1 / 2 := by
  obtain ⟨m, half, rest⟩ := em
  have parity : (m % 2 : ℕ) = 0 ∨ (m % 2 : ℕ) = 1 := Nat.mod_two_eq_zero_or_one m
  rw [abs_le]
  cases half <;> cases rest <;>
    simp only [Represents, ExtendedMantissa.roundedMantissa, ExtendedMantissa.accuracy,
      Accuracy.roundToNearestEven] at stands ⊢
  · constructor <;> linarith
  · constructor <;> linarith
  · rcases parity with even | odd
    · rw [even]
      constructor <;> push_cast <;> linarith
    · rw [odd]
      constructor <;> push_cast <;> linarith
  · constructor <;> push_cast <;> linarith

theorem le_rounded (stands : Represents em x) {n : ℕ} (lower : (n : ℚ) ≤ x) :
    n ≤ em.roundedMantissa := by
  obtain ⟨below, -⟩ := abs_le.mp stands.near
  have next : (n : ℚ) < em.roundedMantissa + 1 := by linarith
  exact Nat.lt_add_one_iff.mp (by exact_mod_cast next)

theorem rounded_le (stands : Represents em x) {n : ℕ} (upper : x < n) :
    em.roundedMantissa ≤ n := by
  obtain ⟨-, above⟩ := abs_le.mp stands.near
  have next : (em.roundedMantissa : ℚ) < n + 1 := by linarith
  exact Nat.lt_add_one_iff.mp (by exact_mod_cast next)

/-- Dropping a bit keeps what the number is. -/
theorem shiftRightOne (stands : Represents em x) : Represents em.shiftRightOne (x / 2) := by
  obtain ⟨m, half, rest⟩ := em
  have split : ((m / 2 : ℕ) : ℚ) * 2 + (m % 2 : ℕ) = m := by
    exact_mod_cast Nat.div_add_mod' m 2
  rcases Nat.mod_two_eq_zero_or_one m with even | odd
  · have cut : (m % 2 != 0) = false := by rw [even]; rfl
    rw [even] at split
    cases half <;> cases rest <;>
      simp only [Represents, ExtendedMantissa.shiftRightOne, cut, Bool.or_true, Bool.or_false]
        at stands ⊢ <;>
      first | (constructor <;> linarith) | linarith
  · have cut : (m % 2 != 0) = true := by rw [odd]; rfl
    rw [odd] at split
    cases half <;> cases rest <;>
      simp only [Represents, ExtendedMantissa.shiftRightOne, cut, Bool.or_true, Bool.or_false]
        at stands ⊢ <;>
      first | (constructor <;> linarith) | linarith

theorem shiftRight (stands : Represents em x) (n : ℕ) : Represents (em >>> n) (x / 2 ^ n) := by
  change Represents (n.repeat ExtendedMantissa.shiftRightOne em) _
  induction n with
  | zero => simpa [Nat.repeat] using stands
  | succ n ih =>
    rw [pow_succ, ← div_div]
    exact ih.shiftRightOne

theorem significand_bounds {m : ℕ} {accuracy : Accuracy}
    (stands : Represents (.ofMantissaAndAccuracy m accuracy) x) : (m : ℚ) ≤ x ∧ x < m + 1 := by
  have first : (ExtendedMantissa.ofMantissaAndAccuracy m accuracy).mantissa = m := by
    cases accuracy with
    | exact => rfl
    | inexact o => cases o <;> rfl
  rw [← first]
  exact stands.bounds

theorem exact (m : ℕ) : Represents (.ofMantissaAndAccuracy m .exact) m := rfl

end Represents

/-! ## Numbers of ordinary size -/

/-- Parts that stand for a number which is zero or has a full significand. -/
inductive Value : UnpackedFloat → ℚ → Prop
  | zero : Value (.zero .positive) 0
  | full {m : ℕ} {e : ℤ} {pos : 0 < m} : 2 ^ 52 ≤ m → m < 2 ^ 53 → -1074 ≤ e → e ≤ 971 →
    Value (.finite .positive m e pos) (m * 2 ^ e)

/-- Neither so small nor so large that a double has no room for a full significand. -/
structure Ordinary (x : ℚ) : Prop where
  least : 2 ^ (-200 : ℤ) ≤ x
  greatest : x ≤ 2 ^ (200 : ℤ)

/-- One number is another up to a part in `2 ^ 53`. -/
def Off (q x : ℚ) : Prop := |q - x| ≤ x / 2 ^ 53

theorem two_zpow_eq (n : ℕ) {e k : ℤ} (sum : e = n + k) : (2 : ℚ) ^ e = 2 ^ n * 2 ^ k := by
  rw [sum, zpow_add₀ two_ne_zero, zpow_natCast]

theorem Value.canonical {f : UnpackedFloat} {q : ℚ} (value : Value f q) : Canonical f := by
  cases value with
  | zero => trivial
  | full lower upper least greatest => exact ⟨upper, least, greatest, .inl lower⟩

theorem Value.pos {m : ℕ} (pos : 0 < m) (e : ℤ) : (0 : ℚ) < m * 2 ^ e :=
  mul_pos (by exact_mod_cast pos) (zpow_pos two_pos e)

theorem Value.nonneg {f : UnpackedFloat} {q : ℚ} (value : Value f q) : 0 ≤ q := by
  cases value with
  | zero => exact le_refl 0
  | full => exact mul_nonneg (Nat.cast_nonneg _) (zpow_nonneg two_pos.le _)

theorem Off.refl {q : ℚ} (nonneg : 0 ≤ q) : Off q q := by
  rw [Off, sub_self, abs_zero]
  positivity

theorem targetExponent_eq (m : ℕ) (e : ℤ) :
    Format.binary64.targetExponent (totalExponent m e) = max ((m.log2 : ℤ) + e - 52) (-1074) := by
  change max (((m.log2 + 1 + e : ℤ)) - (53 : ℕ)) _ = _
  congr 1
  push_cast
  ring

/-- A significand that there is room for is not shortened, and one that is just too long loses a
zero. -/
theorem shiftToTargetExponent_fits {r : ℕ} {e : ℤ} (upper : r ≤ 2 ^ 53) (least : -1074 ≤ e) :
    ∃ em k, shiftToTargetExponent .binary64 r e .exact = (em, k) ∧ em.mantissa < 2 ^ 53 ∧
      e ≤ k ∧ k ≤ e + 1 ∧ (2 ^ 52 ≤ em.mantissa ∨ (em.mantissa = r ∧ k = e)) ∧
      (em.mantissa * 2 ^ k : ℚ) = r * 2 ^ e := by
  unfold shiftToTargetExponent
  rw [targetExponent_eq]
  rcases Nat.lt_or_eq_of_le upper with short | rfl
  · have bits : r.log2 < 53 := by
      rcases Nat.eq_zero_or_pos r with rfl | pos
      · decide
      · exact (Nat.log2_lt pos.ne').mpr short
    have none : (max ((r.log2 : ℤ) + e - 52) (-1074) - e).toNat = 0 := by omega
    refine ⟨⟨r, false, false⟩, e, ?_, short, le_refl e, by omega, .inr ⟨rfl, rfl⟩, rfl⟩
    simp only [shiftToExponent, none, Nat.cast_zero, add_zero]
    rfl
  · have one : (max (((2 ^ 53 : ℕ).log2 : ℤ) + e - 52) (-1074) - e).toNat = 1 := by
      rw [Nat.log2_two_pow]
      omega
    refine ⟨⟨2 ^ 52, false, false⟩, e + 1, ?_, by decide, by omega, le_refl _,
      .inl (le_refl _), ?_⟩
    · simp only [shiftToExponent, one]
      rfl
    · rw [two_zpow_eq 1 (add_comm e 1)]
      norm_num
      ring

/-- What is known of a number before it is cut: a significand with all the bits that doubles have room
for, and how accurate it is. -/
structure Bits (m : ℕ) (e : ℤ) (accuracy : Accuracy) (x : ℚ) : Prop where
  stands : Represents (.ofMantissaAndAccuracy m accuracy) (x / 2 ^ e)
  fine : e ≤ max ((m.log2 : ℤ) + e - 52) (-1074)

namespace Bits

variable {m : ℕ} {e : ℤ} {accuracy : Accuracy} {x : ℚ}

theorem ofLong (stands : Represents (.ofMantissaAndAccuracy m accuracy) (x / 2 ^ e))
    (long : 2 ^ 52 ≤ m) : Bits m e accuracy x := by
  have bits : 52 ≤ m.log2 := (Nat.le_log2 (by omega)).mpr long
  exact ⟨stands, by omega⟩

/-- The number is cut to a significand that doubles have room for, a full one but at the least
exponent. -/
theorem cut (bits : Bits m e accuracy x) :
    ∃ em k, shiftToTargetExponent .binary64 m e accuracy = (em, k) ∧ Represents em (x / 2 ^ k) ∧
      x / 2 ^ k < (2 ^ 53 : ℕ) ∧ -1074 ≤ k ∧ (k = -1074 ∨ 2 ^ 52 ≤ x / 2 ^ k) ∧
      k ≤ max ((m.log2 : ℤ) + e - 52) (-1074) := by
  obtain ⟨below, above⟩ := bits.stands.significand_bounds
  obtain ⟨n, place⟩ := Int.le.dest bits.fine
  obtain ⟨k, target⟩ : ∃ k, k = max ((m.log2 : ℤ) + e - 52) (-1074) := ⟨_, rfl⟩
  rw [← target] at place
  have power : (0 : ℚ) < 2 ^ n := pow_pos two_pos n
  have scaled : x / 2 ^ k = x / 2 ^ e / 2 ^ n := by
    rw [two_zpow_eq n (show k = n + e by omega), div_div, mul_comm]
  refine ⟨ExtendedMantissa.ofMantissaAndAccuracy m accuracy >>> n, k, ?_, ?_, ?_, by omega, ?_,
    target.le⟩
  · have amount : (k - e).toNat = n := by omega
    rw [shiftToTargetExponent, targetExponent_eq, ← target, shiftToExponent, amount, place]
  · rw [scaled]
    exact bits.stands.shiftRight n
  · have short : m + 1 ≤ 2 ^ 53 * 2 ^ n := by
      calc m + 1 ≤ 2 ^ (m.log2 + 1) := Nat.lt_log2_self
        _ ≤ 2 ^ (53 + n) := Nat.pow_le_pow_right (by decide) (by omega)
        _ = 2 ^ 53 * 2 ^ n := pow_add 2 53 n
    rw [scaled, div_lt_iff₀ power]
    exact above.trans_le (by exact_mod_cast short)
  · by_cases least : k = -1074
    · exact .inl least
    · have pos : m ≠ 0 := by
        rintro rfl
        rw [Nat.log2_zero] at target
        omega
      have long : 2 ^ 52 * 2 ^ n ≤ m := by
        calc 2 ^ 52 * 2 ^ n = 2 ^ m.log2 := by rw [← pow_add]; congr 1; omega
          _ ≤ m := Nat.log2_self_le pos
      rw [scaled, le_div_iff₀ power]
      exact .inr (le_trans (by exact_mod_cast long) below)

/-- Rounding a number of ordinary size keeps it up to a part in `2 ^ 53`. -/
theorem off (bits : Bits m e accuracy x) (ordinary : Ordinary x) :
    ∃ em k, shiftToTargetExponent .binary64 m e accuracy = (em, k) ∧
      2 ^ 52 ≤ em.roundedMantissa ∧ em.roundedMantissa ≤ 2 ^ 53 ∧ -1074 ≤ k ∧ k ≤ 970 ∧
      Off (em.roundedMantissa * 2 ^ k) x := by
  obtain ⟨em, k, first, stands, upper, least, full, -⟩ := bits.cut
  have unit : (0 : ℚ) < 2 ^ k := zpow_pos two_pos k
  have lower : 2 ^ 52 ≤ x / 2 ^ k := by
    rcases full with rfl | full
    · rw [le_div_iff₀ unit, ← two_zpow_eq 52 (show (-1022 : ℤ) = (52 : ℕ) + -1074 by norm_num)]
      exact (zpow_le_zpow_right₀ one_le_two (by norm_num)).trans ordinary.least
    · exact full
  have greatest : k ≤ 148 := by
    have size : (2 : ℚ) ^ (52 + k) ≤ 2 ^ (200 : ℤ) := by
      calc (2 : ℚ) ^ (52 + k) = 2 ^ 52 * 2 ^ k := two_zpow_eq 52 rfl
        _ ≤ x := (le_div_iff₀ unit).mp lower
        _ ≤ 2 ^ (200 : ℤ) := ordinary.greatest
    have := (zpow_le_zpow_iff_right₀ (one_lt_two (α := ℚ))).mp size
    omega
  refine ⟨em, k, first, stands.le_rounded (by exact_mod_cast lower), stands.rounded_le upper, least,
    by omega, ?_⟩
  have whole : x = x / 2 ^ k * 2 ^ k := (div_mul_cancel₀ x unit.ne').symm
  unfold Off
  rw [whole, ← sub_mul, abs_mul, abs_of_pos unit]
  generalize x / 2 ^ k = y at stands lower ⊢
  calc _ ≤ 1 / 2 * 2 ^ k := mul_le_mul_of_nonneg_right stands.near unit.le
    _ ≤ y / 2 ^ 53 * 2 ^ k := by
      refine mul_le_mul_of_nonneg_right ?_ unit.le
      linarith
    _ = y * 2 ^ k / 2 ^ 53 := by ring

/-- A number of ordinary size is rounded to a double that is off by a part in `2 ^ 53` at most. -/
theorem value (bits : Bits m e accuracy x) (ordinary : Ordinary x) :
    ∃ q, Value (roundWithAccuracy .binary64 .positive m e accuracy) q ∧ Off q x := by
  obtain ⟨em, k, cut, lower, upper, least, greatest, off⟩ := bits.off ordinary
  obtain ⟨final, place, ended, finalUpper, placeLower, placeUpper, room, same⟩ :=
    shiftToTargetExponent_fits upper least
  have finalLower : 2 ^ 52 ≤ final.mantissa := by
    rcases room with full | ⟨kept, -⟩
    · exact full
    · rwa [kept]
  have result : roundWithAccuracy .binary64 .positive m e accuracy =
      .finite .positive final.mantissa place (by omega) := by
    unfold roundWithAccuracy
    simp only [cut, ended]
    exact dif_neg (by omega)
  rw [result]
  exact ⟨_, .full finalLower finalUpper (by omega) (by omega), same ▸ off⟩

end Bits

/-- A significand that is not long enough is given zeros before it is rounded. -/
theorem round_value {m : ℕ} {e : ℤ} (pos : 0 < m) (ordinary : Ordinary (m * 2 ^ e)) :
    ∃ q, Value (UnpackedFloat.round .binary64 .positive m e) q ∧ Off q (m * 2 ^ e) := by
  obtain ⟨n, short⟩ : ∃ n : ℕ, n = (e - max ((m.log2 : ℤ) + e - 52) (-1074)).toNat := ⟨_, rfl⟩
  have same : ((m * 2 ^ n : ℕ) : ℚ) * 2 ^ (e - n) = m * 2 ^ e := by
    rw [two_zpow_eq n (show e = n + (e - n) by omega)]
    push_cast
    ring
  have bits : Bits (m * 2 ^ n) (e - n) .exact (m * 2 ^ e) := by
    refine ⟨?_, ?_⟩
    · rw [← same, mul_div_cancel_right₀ _ (zpow_ne_zero _ two_ne_zero)]
      exact .exact _
    · have size : m.log2 + n ≤ (m * 2 ^ n).log2 := by
        refine (Nat.le_log2 (Nat.mul_pos pos (Nat.two_pow_pos n)).ne').mpr ?_
        rw [pow_add]
        exact Nat.mul_le_mul_right _ (Nat.log2_self_le pos.ne')
      omega
  have rounded : UnpackedFloat.round .binary64 .positive m e =
      roundWithAccuracy .binary64 .positive (m * 2 ^ n) (e - n) .exact := by
    rw [UnpackedFloat.round, targetExponent_eq, decreaseExponent, ← short, Nat.shiftLeft_eq]
  rw [rounded]
  exact bits.value ordinary

/-! ## The operations -/

/-- A number that is brought to a full significand is rounded once. -/
theorem normalize_value {m : ℤ} {e : ℤ} (pos : 0 < m) (ordinary : Ordinary (m * 2 ^ e)) :
    ∃ q, Value (UnpackedFloat.normalize .binary64 m e .positive) q ∧ Off q (m * 2 ^ e) := by
  obtain ⟨n, rfl⟩ := Int.eq_ofNat_of_zero_le pos.le
  have positive : UnpackedFloat.normalize .binary64 n e .positive =
      UnpackedFloat.round .binary64 .positive n e := by
    unfold UnpackedFloat.normalize
    rw [Int.compare_eq_gt.mpr pos]
    rfl
  rw [positive]
  exact round_value (by omega) ordinary

variable {f g : UnpackedFloat} {x y : ℚ}

/-- A product of two numbers is rounded once. -/
theorem mul_value (first : Value f x) (second : Value g y)
    (ordinary : x * y ≠ 0 → Ordinary (x * y)) :
    ∃ q, Value (UnpackedFloat.mul .binary64 f g) q ∧ Off q (x * y) := by
  cases first with
  | zero =>
    rw [zero_mul]
    cases second <;> exact ⟨0, .zero, .refl (le_refl 0)⟩
  | @full m e pos lower =>
    cases second with
    | zero =>
      rw [mul_zero]
      exact ⟨0, .zero, .refl (le_refl 0)⟩
    | @full n k posN lowerN =>
      have product : (m * 2 ^ e : ℚ) * (n * 2 ^ k) = (m * n : ℕ) * 2 ^ (e + k) := by
        rw [zpow_add₀ two_ne_zero]
        push_cast
        ring
      have size := ordinary (mul_pos (Value.pos pos e) (Value.pos posN k)).ne'
      rw [product] at size ⊢
      refine (Bits.ofLong ?_ ?_).value size
      · rw [mul_div_cancel_right₀ _ (zpow_ne_zero _ two_ne_zero)]
        exact .exact _
      · exact le_trans lower (Nat.le_mul_of_pos_right m posN)

/-- A quotient is its whole part and where the remainder lies in the divisor. -/
theorem represents_quotient (m : ℕ) {d : ℕ} (pos : 0 < d) :
    Represents (.ofMantissaAndAccuracy (m / d) (accuracyOfFraction (m % d) d)) (m / d) := by
  have divisor : (0 : ℚ) < d := by exact_mod_cast pos
  have whole : (m : ℚ) = d * (m / d : ℕ) + (m % d : ℕ) := by
    exact_mod_cast (Nat.div_add_mod m d).symm
  have split : (m : ℚ) / d = (m / d : ℕ) + ((m % d : ℕ) : ℚ) / d := by
    rw [whole, add_div, mul_div_cancel_left₀ _ divisor.ne']
  have below : ((m % d : ℕ) : ℚ) / d < 1 := by
    rw [div_lt_one divisor]
    exact_mod_cast Nat.mod_lt m pos
  rw [split]
  unfold accuracyOfFraction
  split_ifs with exact
  · rw [exact, Nat.cast_zero, zero_div, add_zero]
    exact .exact _
  · have above : (0 : ℚ) < ((m % d : ℕ) : ℚ) / d := by
      exact div_pos (by exact_mod_cast Nat.pos_of_ne_zero exact) divisor
    rcases lt_trichotomy (2 * (m % d)) d with less | half | more
    · have side : ((m % d : ℕ) : ℚ) / d < 1 / 2 := by
        rw [div_lt_div_iff₀ divisor two_pos]
        exact_mod_cast by omega
      rw [compare_lt_iff_lt.mpr less]
      simp only [Represents, ExtendedMantissa.ofMantissaAndAccuracy]
      constructor <;> linarith
    · have side : ((m % d : ℕ) : ℚ) / d = 1 / 2 := by
        rw [div_eq_div_iff divisor.ne' two_ne_zero]
        exact_mod_cast by omega
      rw [compare_eq_iff_eq.mpr half]
      exact congrArg _ side
    · have side : 1 / 2 < ((m % d : ℕ) : ℚ) / d := by
        rw [div_lt_div_iff₀ two_pos divisor]
        exact_mod_cast by omega
      rw [compare_gt_iff_gt.mpr more]
      simp only [Represents, ExtendedMantissa.ofMantissaAndAccuracy]
      constructor <;> linarith

/-- A quotient is divided out to all the bits that doubles have room for. -/
theorem divCore_bits {m n : ℕ} (posM : 0 < m) (posN : 0 < n) (e k : ℤ) :
    ∃ whole t accuracy, divCore .binary64 m e n k = (whole, t, accuracy) ∧
      Bits whole t accuracy (m * 2 ^ e / (n * 2 ^ k)) := by
  obtain ⟨t, target⟩ : ∃ t, t = min (e - k)
      (Format.binary64.targetExponent (totalExponent m e - totalExponent n k)) := ⟨_, rfl⟩
  have room : t ≤ e - k ∧ t ≤ max ((m.log2 : ℤ) + e - (n.log2 + k) - 53) (-1074) := by
    change t = min (e - k) (max ((m.log2 + 1 + e : ℤ) - (n.log2 + 1 + k) - (53 : ℕ)) (-1074))
      at target
    omega
  obtain ⟨s, amount⟩ := Int.le.dest room.1
  refine ⟨m * 2 ^ s / n, t, accuracyOfFraction (m * 2 ^ s % n) n, ?_, ?_, ?_⟩
  · have shift : (e - k - t).toNat = s := by omega
    rw [divCore, ← target, shift, Nat.shiftLeft_eq]
  · have quotient : (m * 2 ^ e : ℚ) / (n * 2 ^ k) = (m * 2 ^ s : ℕ) / n * 2 ^ t := by
      rw [mul_div_mul_comm, ← zpow_sub₀ two_ne_zero, two_zpow_eq s (show e - k = s + t by omega)]
      push_cast
      ring
    rw [quotient, mul_div_cancel_right₀ _ (zpow_ne_zero _ two_ne_zero)]
    exact represents_quotient _ posN
  · rcases le_max_iff.mp room.2 with long | least
    · have full : 2 ^ 52 ≤ m * 2 ^ s / n := by
        rw [Nat.le_div_iff_mul_le posN]
        calc 2 ^ 52 * n ≤ 2 ^ 52 * 2 ^ (n.log2 + 1) :=
              Nat.mul_le_mul_left _ Nat.lt_log2_self.le
          _ = 2 ^ (52 + (n.log2 + 1)) := (pow_add 2 _ _).symm
          _ ≤ 2 ^ (m.log2 + s) := Nat.pow_le_pow_right (by decide) (by omega)
          _ = 2 ^ m.log2 * 2 ^ s := pow_add 2 _ _
          _ ≤ m * 2 ^ s := Nat.mul_le_mul_right _ (Nat.log2_self_le posM.ne')
      have bits : 52 ≤ (m * 2 ^ s / n).log2 := (Nat.le_log2 (by omega)).mpr full
      omega
    · exact le_max_of_le_right least

/-- A quotient of two numbers is rounded once; the accuracy keeps what the division left over. -/
theorem div_value (first : Value f x) (second : Value g y) (nonzero : y ≠ 0)
    (ordinary : x / y ≠ 0 → Ordinary (x / y)) :
    ∃ q, Value (UnpackedFloat.div .binary64 f g) q ∧ Off q (x / y) := by
  cases second with
  | zero => exact absurd rfl nonzero
  | @full n k posN lowerN upperN =>
    cases first with
    | zero =>
      rw [zero_div]
      exact ⟨0, .zero, .refl (le_refl 0)⟩
    | @full m e pos lower upper =>
      have size := ordinary (div_pos (Value.pos pos e) (Value.pos posN k)).ne'
      obtain ⟨whole, t, accuracy, core, bits⟩ := divCore_bits pos posN e k
      have divided : UnpackedFloat.div .binary64 (.finite .positive m e pos)
          (.finite .positive n k posN) = roundWithAccuracy .binary64 .positive whole t accuracy := by
        rw [UnpackedFloat.div, core]
        rfl
      rw [divided]
      exact bits.value size

/-- A sum of two numbers is rounded once, after both are brought to the smaller exponent. -/
theorem add_value (first : Value f x) (second : Value g y)
    (ordinary : x + y ≠ 0 → Ordinary (x + y)) :
    ∃ q, Value (UnpackedFloat.add .binary64 f g) q ∧ Off q (x + y) := by
  cases first with
  | zero =>
    have same : UnpackedFloat.add .binary64 (.zero .positive) g = g := by cases second <;> rfl
    rw [zero_add, same]
    exact ⟨y, second, .refl second.nonneg⟩
  | @full m e pos lower upper least greatest =>
    have first : Value (.finite .positive m e pos) (m * 2 ^ e) := .full lower upper least greatest
    cases second with
    | zero =>
      rw [add_zero]
      exact ⟨_, first, .refl first.nonneg⟩
    | @full n k posN lowerN =>
      obtain ⟨a, left⟩ : ∃ a : ℕ, a = (e - min e k).toNat := ⟨_, rfl⟩
      obtain ⟨b, right⟩ : ∃ b : ℕ, b = (k - min e k).toNat := ⟨_, rfl⟩
      have added : UnpackedFloat.add .binary64 (.finite .positive m e pos)
          (.finite .positive n k posN) =
          .normalize .binary64 ((m * 2 ^ a : ℕ) + (n * 2 ^ b : ℕ)) (min e k) .positive := by
        rw [UnpackedFloat.add, decreaseExponent, decreaseExponent, ← left, ← right,
          Nat.shiftLeft_eq, Nat.shiftLeft_eq]
        rfl
      have sum : (m * 2 ^ e + n * 2 ^ k : ℚ) =
          (((m * 2 ^ a : ℕ) + (n * 2 ^ b : ℕ) : ℤ) : ℚ) * 2 ^ min e k := by
        rw [two_zpow_eq a (show e = a + min e k by omega),
          two_zpow_eq b (show k = b + min e k by omega)]
        push_cast
        ring
      have size := ordinary (add_pos (Value.pos pos e) (Value.pos posN k)).ne'
      rw [added, sum]
      rw [sum] at size
      refine normalize_value ?_ size
      have := Nat.mul_pos pos (Nat.two_pow_pos a)
      omega

/-- A natural number up to `2 ^ 64` becomes a double by one rounding. -/
theorem ofNat_value (n : ℕ) (bound : n ≤ 2 ^ 64) :
    ∃ q, Value (UnpackedFloat.ofNat .binary64 n) q ∧ Off q n := by
  rcases Nat.eq_zero_or_pos n with rfl | pos
  · exact ⟨0, .zero, by rw [Nat.cast_zero]; exact .refl (le_refl 0)⟩
  · have itself : (n : ℚ) = ((n : ℤ) : ℚ) * 2 ^ (0 : ℤ) := by simp
    have ordinary : Ordinary n := by
      have least : (1 : ℚ) ≤ n := by exact_mod_cast pos
      have greatest : (n : ℚ) ≤ 2 ^ 64 := by exact_mod_cast bound
      exact ⟨le_trans (by norm_num) least, le_trans greatest (by norm_num)⟩
    rw [itself] at ordinary ⊢
    exact normalize_value (by exact_mod_cast pos) ordinary

/-! ## One rounding after another -/

/-- A number comes from another by so many roundings. -/
structure Drifts (k : ℕ) (q x : ℚ) : Prop where
  lower : x * (1 - 1 / 2 ^ 53) ^ k ≤ q
  upper : q ≤ x * (1 + 1 / 2 ^ 53) ^ k

theorem Off.drifts {q x : ℚ} (off : Off q x) : Drifts 1 q x := by
  obtain ⟨lower, upper⟩ := abs_le.mp off
  constructor <;> linarith

/-- Zero, or of ordinary size with some room. -/
structure Moderate (x : ℚ) : Prop where
  nonneg : 0 ≤ x
  least : x ≠ 0 → 1 / 2 ^ 100 ≤ x
  greatest : x ≤ 2 ^ 100

/-- Quotients of numbers that are not too large leave room for more roundings. -/
theorem Moderate.quotient {n d : ℕ} (pos : 0 < d) (divisor : d ≤ 2 ^ 100) (bound : n ≤ 2 ^ 100) :
    Moderate (n / d) := by
  have unit : (1 : ℚ) ≤ d := by exact_mod_cast pos
  have small : (d : ℚ) ≤ 2 ^ 100 := by exact_mod_cast divisor
  have large : (n : ℚ) ≤ 2 ^ 100 := by exact_mod_cast bound
  have nonneg : (0 : ℚ) ≤ n := Nat.cast_nonneg n
  refine ⟨by positivity, fun nonzero => ?_, le_trans (div_le_self nonneg unit) large⟩
  have one : (1 : ℚ) ≤ n := by
    have : n ≠ 0 := by
      rintro rfl
      exact nonzero (by rw [Nat.cast_zero, zero_div])
    exact_mod_cast Nat.one_le_iff_ne_zero.mpr this
  exact div_le_div₀ nonneg one (by linarith) small

namespace Drifts

variable {j k : ℕ} {p q r x y : ℚ}

/-- Roundings of a number that was rounded before add up. -/
theorem trans (first : Drifts j p q) (second : Drifts k q x) : Drifts (k + j) p x where
  lower := by
    calc x * (1 - 1 / 2 ^ 53) ^ (k + j) = x * (1 - 1 / 2 ^ 53) ^ k * (1 - 1 / 2 ^ 53) ^ j := by
          rw [pow_add, mul_assoc]
      _ ≤ q * (1 - 1 / 2 ^ 53) ^ j :=
        mul_le_mul_of_nonneg_right second.lower (pow_nonneg (by norm_num) j)
      _ ≤ p := first.lower
  upper := by
    calc p ≤ q * (1 + 1 / 2 ^ 53) ^ j := first.upper
      _ ≤ x * (1 + 1 / 2 ^ 53) ^ k * (1 + 1 / 2 ^ 53) ^ j :=
        mul_le_mul_of_nonneg_right second.upper (pow_nonneg (by norm_num) j)
      _ = x * (1 + 1 / 2 ^ 53) ^ (k + j) := by rw [pow_add, mul_assoc]

theorem more (drifts : Drifts j q x) (nonneg : 0 ≤ x) (fewer : j ≤ k) : Drifts k q x where
  lower := le_trans (mul_le_mul_of_nonneg_left
    (pow_le_pow_of_le_one (by norm_num) (by norm_num) fewer) nonneg) drifts.lower
  upper := le_trans drifts.upper (mul_le_mul_of_nonneg_left
    (pow_le_pow_right₀ (by norm_num) fewer) nonneg)

theorem scale (drifts : Drifts k q x) {c : ℚ} (nonneg : 0 ≤ c) : Drifts k (q * c) (x * c) where
  lower := by
    rw [mul_right_comm]
    exact mul_le_mul_of_nonneg_right drifts.lower nonneg
  upper := by
    rw [mul_right_comm]
    exact mul_le_mul_of_nonneg_right drifts.upper nonneg

theorem shrink (drifts : Drifts k q x) {c : ℚ} (nonneg : 0 ≤ c) : Drifts k (q / c) (x / c) := by
  rw [div_eq_mul_inv, div_eq_mul_inv]
  exact drifts.scale (inv_nonneg.mpr nonneg)

theorem add (first : Drifts k q x) (second : Drifts k r y) : Drifts k (q + r) (x + y) where
  lower := by
    rw [add_mul]
    exact add_le_add first.lower second.lower
  upper := by
    rw [add_mul]
    exact add_le_add first.upper second.upper

/-- A few roundings change a number by less than a part in `2 ^ 50`. -/
theorem near (drifts : Drifts 5 q x) (nonneg : 0 ≤ x) : |q - x| ≤ x / 2 ^ 50 := by
  have lower := mul_le_mul_of_nonneg_left
    (show (1 - 1 / 2 ^ 50 : ℚ) ≤ (1 - 1 / 2 ^ 53) ^ 5 by norm_num) nonneg
  have upper := mul_le_mul_of_nonneg_left
    (show ((1 + 1 / 2 ^ 53) ^ 5 : ℚ) ≤ 1 + 1 / 2 ^ 50 by norm_num) nonneg
  have := drifts.lower
  have := drifts.upper
  rw [abs_le]
  constructor <;> linarith

/-- Roundings of a moderate number are of ordinary size. -/
theorem ordinary (drifts : Drifts k q x) (few : k ≤ 5) (moderate : Moderate x) (nonzero : q ≠ 0) :
    Ordinary q := by
  obtain ⟨below, above⟩ := abs_le.mp ((drifts.more moderate.nonneg few).near moderate.nonneg)
  have start : x ≠ 0 := by
    rintro rfl
    exact nonzero (by linarith)
  have least := moderate.least start
  have greatest := moderate.greatest
  refine ⟨?_, ?_⟩
  · calc (2 : ℚ) ^ (-200 : ℤ) ≤ 1 / 2 ^ 100 - 1 / 2 ^ 100 / 2 := by norm_num
      _ ≤ q := by linarith
  · calc q ≤ 2 ^ 100 + 2 ^ 100 / 2 ^ 50 := by linarith
      _ ≤ 2 ^ (200 : ℤ) := by norm_num

end Drifts

/-! ## Doubles -/

/-- A double stands for a number. -/
def Holds (x : Float) (q : ℚ) : Prop := Value (parts x) q

namespace Holds

variable {x y : Float} {a b : ℚ}

theorem ofParts {f : UnpackedFloat} (same : parts x = f) (value : Value f a) : Holds x a := by
  rw [Holds, same]
  exact value

theorem finite (holds : Holds x a) : Number.finite x = true := by
  rw [finite_eq]
  unfold Holds at holds
  generalize parts x = f at holds
  cases holds <;> rfl

theorem ofFull {m : ℕ} {e : ℤ} {pos : 0 < m} (same : parts x = .finite .positive m e pos)
    (full : 2 ^ 52 ≤ m) : Holds x (m * 2 ^ e) := by
  have canonical := parts_canonical x
  rw [same] at canonical
  obtain ⟨upper, least, greatest, -⟩ := canonical
  exact ofParts same (.full full upper least greatest)

theorem zero : Holds 0.0 0 := ofParts (f := .zero .positive) rfl .zero

theorem positive_iff (holds : Holds x a) : x > 0.0 ↔ 0 < a := by
  rw [gt_zero_iff_parts]
  unfold Holds at holds
  generalize parts x = f at holds
  cases holds with
  | zero => exact ⟨fun less => (nomatch less), fun less => absurd less (lt_irrefl 0)⟩
  | @full m e pos =>
    exact ⟨fun _ => Value.pos pos e, fun _ => rfl⟩

theorem nonneg (holds : Holds x a) : 0 ≤ a := Value.nonneg holds

theorem add (first : Holds x a) (second : Holds y b)
    (ordinary : a + b ≠ 0 → Ordinary (a + b)) : ∃ q, Holds (x + y) q ∧ Drifts 1 q (a + b) := by
  obtain ⟨q, value, off⟩ := add_value first second ordinary
  exact ⟨q, ofParts (unpack_pack value.canonical) value, off.drifts⟩

theorem mul (first : Holds x a) (second : Holds y b)
    (ordinary : a * b ≠ 0 → Ordinary (a * b)) : ∃ q, Holds (x * y) q ∧ Drifts 1 q (a * b) := by
  obtain ⟨q, value, off⟩ := mul_value first second ordinary
  exact ⟨q, ofParts (unpack_pack value.canonical) value, off.drifts⟩

theorem div (first : Holds x a) (second : Holds y b) (nonzero : b ≠ 0)
    (ordinary : a / b ≠ 0 → Ordinary (a / b)) : ∃ q, Holds (x / y) q ∧ Drifts 1 q (a / b) := by
  obtain ⟨q, value, off⟩ := div_value first second nonzero ordinary
  exact ⟨q, ofParts (unpack_pack value.canonical) value, off.drifts⟩

theorem ofWord {n : ℕ} (bound : n < 2 ^ 64) :
    ∃ q, Holds (UInt64.ofNat n).toFloat q ∧ Drifts 1 q n := by
  obtain ⟨q, value, off⟩ := ofNat_value n bound.le
  have word : (UInt64.ofNat n).toNat = n := by
    rw [UInt64.toNat_ofNat', Nat.mod_eq_of_lt bound]
  rw [← word] at value
  exact ⟨q, ofParts (unpack_pack value.canonical) value, off.drifts⟩

end Holds

end CollectionRunner.Number
