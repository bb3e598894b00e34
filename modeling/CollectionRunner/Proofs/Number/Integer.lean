import CollectionRunner.Proofs.Number.Double

/-!
# Integers as doubles

An integer becomes a double by rounding it to 53 significant bits, ties going to the even one:
`whole?_ofInt` says so for every machine word.  `rounded` leaves integers of at most 53 bits as they
are, and takes none of the larger ones below that bound, so two integers become one double only when
both have more bits than a double holds (`rounded_eq_iff`).
-/

namespace CollectionRunner.Number

open Float.Model UnpackedFloat

/-! ## Rounding to significant bits -/

/-- A quotient by a power of two, rounded to the nearest number, ties to the even one. -/
def halfEven (n k : Nat) : Nat :=
  if 2 * (n % 2 ^ k) < 2 ^ k then n / 2 ^ k
  else if 2 * (n % 2 ^ k) = 2 ^ k then n / 2 ^ k + n / 2 ^ k % 2
  else n / 2 ^ k + 1

/-- A natural number rounded to 53 significant bits. -/
def roundedNat (n : Nat) : Nat := halfEven n (n.log2 - 52) * 2 ^ (n.log2 - 52)

/-- An integer rounded to 53 significant bits. -/
def rounded (i : Int) : Int := i.sign * roundedNat i.natAbs

theorem halfEven_zero (n : Nat) : halfEven n 0 = n := by
  simp [halfEven, Nat.mod_one]

theorem halfEven_bounds (n k : Nat) : n / 2 ^ k ≤ halfEven n k ∧ halfEven n k ≤ n / 2 ^ k + 1 := by
  unfold halfEven
  split
  · omega
  · split <;> omega

/-- Only the quotient counts. -/
theorem halfEven_scaled (n k j : Nat) : halfEven (n * 2 ^ j) (k + j) = halfEven n k := by
  have pos := Nat.two_pow_pos j
  unfold halfEven
  rw [Nat.pow_add, Nat.mul_div_mul_right _ _ pos, Nat.mul_mod_mul_right, ← Nat.mul_assoc]
  simp only [Nat.mul_lt_mul_right pos, Nat.mul_right_cancel_iff pos]

theorem roundShift_eq (n k : Nat) : roundShift n (k + 1) false = halfEven n (k + 1) := by
  have quotient : n >>> (k + 1) = n / 2 ^ (k + 1) := Nat.shiftRight_eq_div_pow n (k + 1)
  have rest : n - n / 2 ^ (k + 1) * 2 ^ (k + 1) = n % 2 ^ (k + 1) := Nat.mod_eq_sub_div_mul.symm
  have twice : 2 ^ (k + 1) = 2 * 2 ^ k := Nat.pow_succ'
  unfold roundShift halfEven
  simp only [quotient, Nat.shiftLeft_eq, rest, Nat.succ_ne_zero, if_false, Bool.false_or,
    Bool.or_eq_true, Bool.and_eq_true, decide_eq_true_eq, beq_iff_eq]
  split <;> split <;> try split
  all_goals omega

/-! ## Rounding a natural number to a double -/

/-- A natural number shifted so that `k` bits follow its leading bit. -/
def scaled (k n : Nat) : Nat := n * 2 ^ (k - n.log2)

/-- A number shifted to have `k` bits after its leading one lies between two powers of two. -/
theorem scaled_bounds {k n : Nat} (pos : 0 < n) (room : n.log2 ≤ k) :
    2 ^ k ≤ scaled k n ∧ scaled k n < 2 ^ (k + 1) := by
  have scale : 2 ^ n.log2 * 2 ^ (k - n.log2) = 2 ^ k := by
    rw [← Nat.pow_add, Nat.add_sub_cancel' room]
  have lower := Nat.mul_le_mul_right (2 ^ (k - n.log2)) (Nat.log2_self_le (by omega : n ≠ 0))
  have upper := Nat.mul_lt_mul_of_pos_right (Nat.lt_log2_self (n := n))
    (Nat.two_pow_pos (k - n.log2))
  rw [Nat.pow_succ, Nat.mul_right_comm, scale] at upper
  rw [scale] at lower
  exact ⟨lower, upper⟩

theorem log2_scaled {k n : Nat} (pos : 0 < n) (room : n.log2 ≤ k) : (scaled k n).log2 = k := by
  obtain ⟨lower, upper⟩ := scaled_bounds pos room
  have := Nat.two_pow_pos k
  exact (Nat.log2_eq_iff (by omega)).mpr ⟨lower, upper⟩

theorem log2_le_of_lt {k n : Nat} (bound : n < 2 ^ (k + 1)) : n.log2 ≤ k := by
  rcases Nat.eq_zero_or_pos n with rfl | pos
  · exact Nat.zero_le k
  · exact Nat.le_of_lt_succ ((Nat.log2_lt (by omega)).mpr bound)

/-- The significand that a natural number is rounded to. -/
def significand (n : Nat) : Nat := halfEven (scaled 66 n) 14

theorem significand_bounds {n : Nat} (pos : 0 < n) (word : n.log2 ≤ 63) :
    2 ^ 52 ≤ significand n ∧ significand n ≤ 2 ^ 53 := by
  obtain ⟨lower, upper⟩ := scaled_bounds pos (by omega : n.log2 ≤ 66)
  have bounds := halfEven_bounds (scaled 66 n) 14
  unfold significand
  omega

theorem significand_of_short {n : Nat} (short : n.log2 ≤ 52) : significand n = scaled 52 n := by
  have split : 66 - n.log2 = 52 - n.log2 + 14 := by omega
  unfold significand scaled
  rw [split, Nat.pow_add, ← Nat.mul_assoc]
  exact (halfEven_scaled _ 0 14).trans (halfEven_zero _)

theorem significand_of_long {n : Nat} (long : 52 ≤ n.log2) (word : n.log2 ≤ 63) :
    significand n = halfEven n (n.log2 - 52) := by
  have split : 14 = n.log2 - 52 + (66 - n.log2) := by omega
  exact (congrArg (halfEven (scaled 66 n)) split).trans (halfEven_scaled _ _ _)

/-- The bits of the double nearest to a natural number: its size as the exponent, and the rounded
significand added to them, so that a carry moves to the next exponent. -/
theorem nearestBits_one {n : Nat} (pos : 0 < n) (word : n.log2 ≤ 63) :
    nearestBits n 1 = (n.log2 + 1022) * 2 ^ 52 + significand n := by
  have bound := (significand_bounds pos word).2
  have shift : 66 + ((1 : Nat).log2 : Int) - (n.log2 : Int) = (66 - n.log2 : Nat) := by
    have one : (1 : Nat).log2 = 0 := rfl
    omega
  have fold : n * 2 ^ (66 - n.log2) = scaled 66 n := rfl
  have leading := log2_scaled pos (by omega : n.log2 ≤ 66)
  have exponent : ((66 : Nat) : Int) - (66 - n.log2 : Nat) = n.log2 := by omega
  have unit : unitExponent n.log2 = (n.log2 : Int) - 52 := by
    unfold unitExponent
    omega
  have drop : ((n.log2 : Int) - 52 + (66 - n.log2 : Nat)).toNat = 14 := by omega
  have field : ((n.log2 : Int) - 52 + 1074).toNat = n.log2 + 1022 := by omega
  have infinite : infinityBits = 2047 * 2 ^ 52 := rfl
  have base : twoTo 52 = 2 ^ 52 := rfl
  have round : roundShift (scaled 66 n) 14 (0 != 0) = significand n := roundShift_eq _ 13
  unfold nearestBits
  simp only [shift, Int.natCast_nonneg, if_true, Int.toNat_natCast, Nat.shiftLeft_eq, Nat.div_one,
    Nat.mod_one, fold, leading, exponent, unit, drop, field]
  rw [if_neg (by omega), if_neg (by omega), infinite, base, round]
  exact Nat.min_eq_right (by omega)

/-! ## The double of a natural number -/

/-- A natural number of a machine word is rounded to a double with a full significand; when the
rounding carries, that is the least one of the next exponent. -/
theorem parts_nearest {n : Nat} (pos : 0 < n) (word : n < 2 ^ 64) :
    ∃ m e mPos, parts (nearest n 1) = .finite .positive m e mPos ∧
      (significand n < 2 ^ 53 ∧ m = significand n ∧ e = (n.log2 : Int) - 52 ∨
        significand n = 2 ^ 53 ∧ m = 2 ^ 52 ∧ e = (n.log2 : Int) - 51) := by
  have log : n.log2 ≤ 63 := log2_le_of_lt word
  obtain ⟨lower, upper⟩ := significand_bounds pos log
  have bits : nearest n 1 = Float.ofBits (UInt64.ofNat (nearestBits n 1)) := if_neg (by omega)
  have sign : signOf ((n.log2 + 1022) * 2 ^ 52 + significand n) = .positive := if_neg (by omega)
  rw [bits, nearestBits_one pos log]
  rcases Nat.lt_or_ge (significand n) (2 ^ 53) with short | carried
  · have fields : Fields ((n.log2 + 1022) * 2 ^ 52 + significand n) .positive (n.log2 + 1023)
        (significand n - 2 ^ 52) := ⟨sign, by omega, by omega⟩
    have given := fields.normal (m := significand n) (e := (n.log2 : Int) - 52) (by omega)
      (by omega) (by omega) (by omega) (by omega)
    exact ⟨_, _, _, parts_ofBits (by omega) given, .inl ⟨short, rfl, rfl⟩⟩
  · have fields : Fields ((n.log2 + 1022) * 2 ^ 52 + significand n) .positive (n.log2 + 1024) 0 :=
      ⟨sign, by omega, by omega⟩
    have given := fields.normal (m := 2 ^ 52) (e := (n.log2 : Int) - 51) (by decide)
      (by decide) (by omega) (by omega) (by omega)
    exact ⟨_, _, _, parts_ofBits (by omega) given, .inr ⟨by omega, rfl, rfl⟩⟩

theorem wholeOf_positive {m : Nat} {e : Int} {pos : 0 < m} (divides : 2 ^ (-e).toNat ∣ m) :
    wholeOf (.finite .positive m e pos) =
      some ((m / 2 ^ (-e).toNat * 2 ^ e.toNat : Nat) : Int) :=
  if_pos (Nat.mod_eq_zero_of_dvd divides)

/-- A natural number of at most 53 bits is a double. -/
theorem whole?_nearest_of_short {n : Nat} (pos : 0 < n) (short : n.log2 ≤ 52) (word : n < 2 ^ 64) :
    whole? (nearest n 1) = some (n : Int) := by
  have size := significand_of_short short
  have bound := (scaled_bounds pos short).2
  have down : (-((n.log2 : Int) - 52)).toNat = 52 - n.log2 := by omega
  have up : ((n.log2 : Int) - 52).toNat = 0 := by omega
  obtain ⟨m, e, mPos, taken, ⟨-, rfl, rfl⟩ | ⟨carried, -, -⟩⟩ := parts_nearest pos word
  · simp only [size] at taken
    rw [whole?_eq, taken, wholeOf_positive (by rw [down]; exact Nat.dvd_mul_left _ _), down, up,
      scaled, Nat.mul_div_cancel _ (Nat.two_pow_pos _), Nat.pow_zero, Nat.mul_one]
  · omega

/-- A longer natural number is rounded to the double with its 53 leading bits, ties to the even
one. -/
theorem whole?_nearest_of_long {n : Nat} (long : 53 ≤ n.log2) (word : n < 2 ^ 64) :
    whole? (nearest n 1) = some (roundedNat n : Int) := by
  have size := significand_of_long (by omega) (log2_le_of_lt word)
  have pos : 0 < n := Nat.pos_of_ne_zero fun zero => by simp [zero] at long
  obtain ⟨m, e, mPos, taken, fields⟩ := parts_nearest pos word
  have positive : 1 ≤ e := by rcases fields with ⟨-, -, rfl⟩ | ⟨-, -, rfl⟩ <;> omega
  have down : (-e).toNat = 0 := by omega
  have value : m * 2 ^ e.toNat = roundedNat n := by
    unfold roundedNat
    rw [← size]
    rcases fields with ⟨-, rfl, rfl⟩ | ⟨carried, rfl, rfl⟩
    · congr 2
      omega
    · have next : ((n.log2 : Int) - 51).toNat = n.log2 - 52 + 1 := by omega
      have double : 2 ^ (n.log2 - 52 + 1) = 2 * 2 ^ (n.log2 - 52) := Nat.pow_succ'
      rw [carried, next, double]
      omega
  rw [whole?_eq, taken, wholeOf_positive (by rw [down]; exact Nat.one_dvd _), down, Nat.pow_zero,
    Nat.div_one, value]

theorem roundedNat_of_short {n : Nat} (short : n.log2 ≤ 52) : roundedNat n = n := by
  have none : n.log2 - 52 = 0 := by omega
  rw [roundedNat, none, halfEven_zero, Nat.pow_zero, Nat.mul_one]

/-- The double nearest to a natural number stands for the number rounded to 53 significant bits. -/
theorem whole?_nearest {n : Nat} (word : n < 2 ^ 64) :
    whole? (nearest n 1) = some (roundedNat n : Int) := by
  rcases Nat.eq_zero_or_pos n with rfl | pos
  · have zero : parts (nearest 0 1) = .zero .positive := rfl
    rw [whole?_eq, zero]
    rfl
  · rcases Nat.lt_or_ge 52 n.log2 with long | short
    · exact whole?_nearest_of_long long word
    · rw [roundedNat_of_short short]
      exact whole?_nearest_of_short pos short word

/-! ## The double of an integer -/

/-- The whole number of opposite parts is the opposite one. -/
theorem wholeOf_neg (f : UnpackedFloat) : wholeOf f.neg = (wholeOf f).map (-·) := by
  cases f with
  | notANumber | infinity | zero => rfl
  | finite s m e pos =>
    simp only [UnpackedFloat.neg, wholeOf]
    split
    · cases s with
      | negative => exact congrArg some (Int.neg_neg _).symm
      | positive => rfl
    · rfl

theorem whole?_neg (x : Float) : whole? (-x) = (whole? x).map (-·) := by
  rw [whole?_eq, whole?_eq, parts_neg, wholeOf_neg]

/-- The double of an integer is the integer rounded to 53 significant bits. -/
theorem whole?_ofInt {i : Int} (word : i.natAbs < 2 ^ 64) : whole? (ofInt i) = some (rounded i) := by
  have whole := whole?_nearest word
  unfold ofInt rounded
  split
  · rename_i negative
    rw [whole?_neg, whole, Int.sign_eq_neg_one_of_neg negative, Int.neg_one_mul]
    rfl
  · rename_i nonneg
    rcases Int.lt_or_eq_of_le (Int.not_lt.mp nonneg) with positive | rfl
    · rw [whole, Int.sign_eq_one_of_pos positive, Int.one_mul]
    · exact whole

theorem rounded_of_short {i : Int} (short : i.natAbs ≤ 2 ^ 53) : rounded i = i := by
  have kept : roundedNat i.natAbs = i.natAbs := by
    rcases Nat.lt_or_eq_of_le short with less | equal
    · exact roundedNat_of_short (log2_le_of_lt less)
    · rw [equal]
      decide
  rw [rounded, kept]
  exact Int.sign_mul_natAbs i

theorem le_roundedNat {n : Nat} (large : 2 ^ 53 ≤ n) : 2 ^ 53 ≤ roundedNat n := by
  have log : 53 ≤ n.log2 := (Nat.le_log2 (by omega)).mpr large
  have quotient : 2 ^ 52 ≤ n / 2 ^ (n.log2 - 52) := by
    rw [Nat.le_div_iff_mul_le (Nat.two_pow_pos _), ← Nat.pow_add,
      Nat.add_sub_cancel' (by omega : 52 ≤ n.log2)]
    exact Nat.log2_self_le (by omega)
  have unit : 2 ^ 1 ≤ 2 ^ (n.log2 - 52) := Nat.pow_le_pow_right (by decide) (by omega)
  have bound := (halfEven_bounds n (n.log2 - 52)).1
  exact Nat.mul_le_mul (Nat.le_trans quotient bound) unit

theorem le_natAbs_rounded {i : Int} (large : 2 ^ 53 ≤ i.natAbs) : 2 ^ 53 ≤ (rounded i).natAbs := by
  have sign : i.sign.natAbs = 1 := Int.natAbs_sign_of_ne_zero (by omega)
  rw [rounded, Int.natAbs_mul, sign, Nat.one_mul, Int.natAbs_natCast]
  exact le_roundedNat large

/-- Integers are rounded to different ones, unless both have more bits than a double holds. -/
theorem rounded_eq_iff {a b : Int} (bound : a.natAbs ≤ 2 ^ 53)
    (other : b.natAbs ≤ 2 ^ 53 ∨ a.natAbs < 2 ^ 53) : rounded a = rounded b ↔ a = b := by
  refine ⟨fun same => ?_, congrArg rounded⟩
  rw [rounded_of_short bound] at same
  rcases Nat.le_total b.natAbs (2 ^ 53) with short | long
  · rw [same, rounded_of_short short]
  · have large := le_natAbs_rounded long
    rw [← same] at large
    have equal : b.natAbs ≤ 2 ^ 53 := other.resolve_right (by omega)
    rw [same, rounded_of_short equal]

/-- Two integers become equal doubles if and only if they are rounded to one integer. -/
theorem ofInt_beq_iff {a b : Int} (aWord : a.natAbs < 2 ^ 64) (bWord : b.natAbs < 2 ^ 64) :
    (ofInt a == ofInt b) = true ↔ rounded a = rounded b := by
  constructor
  · intro equal
    have whole := whole?_eq_of_beq equal
    rw [whole?_ofInt aWord, whole?_ofInt bWord] at whole
    exact Option.some.inj whole
  · intro same
    have whole := whole?_ofInt bWord
    rw [← same] at whole
    exact beq_of_whole? (whole?_ofInt aWord) whole

end CollectionRunner.Number
