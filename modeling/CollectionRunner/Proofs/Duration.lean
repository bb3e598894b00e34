import CollectionRunner.Duration
import CollectionRunner.Proofs.Number.Order

/-!
# Measured times in documents

A span goes to a document as a double of milliseconds and comes back as the nearest span.  On the
way there are five roundings (`Duration.holds_fractional`, `Duration.exists_ofFractional?`), so what
comes back is as good as a double can be, and a span of less than `2 ^ 49` nanoseconds, six days,
comes back as it was (`Duration.Near.eq_of_short`).
-/

namespace CollectionRunner

open Number

namespace Duration

/-- One span is another up to the roundings of doubles: to a part in `2 ^ 50` and half a
nanosecond. -/
def Near (a b : Duration) : Prop :=
  2 ^ 50 * ((b.nanoseconds : Int) - a.nanoseconds).natAbs ≤ a.nanoseconds + 2 ^ 49

theorem Near.eq_of_short {a b : Duration} (near : a.Near b) (short : a.nanoseconds < 2 ^ 49) :
    b = a := by
  unfold Near at near
  have same : b.nanoseconds = a.nanoseconds := by omega
  exact congrArg Duration.mk same

/-- Less than `2 ^ 63` seconds. -/
def Short (d : Duration) : Prop := d.nanoseconds < 2 ^ 63 * 1000000000

instance (d : Duration) : Decidable d.Short := Nat.decLt _ _

/-! ## On the way out -/

theorem holds_thousand : Holds 1000.0 1000 := by
  have taken : parts 1000.0 = .finite .positive (1000 * 2 ^ 43) (-43) (by decide) := rfl
  have holds := Holds.ofFull taken (by decide)
  norm_num at holds ⊢
  exact holds

theorem holds_billion : Holds 1000000000.0 1000000000 := by
  have taken : parts 1000000000.0 = .finite .positive (1000000000 * 2 ^ 23) (-23) (by decide) := rfl
  have holds := Holds.ofFull taken (by decide)
  norm_num at holds ⊢
  exact holds

theorem moderate_quotient {n d : Nat} (short : n < 2 ^ 63 * 1000000000) (pos : 0 < d)
    (divisor : d ≤ 1000000000) : Moderate ((n : ℚ) / d) :=
  .quotient pos (by omega) (by omega)

/-- The seconds of a span are three roundings off. -/
theorem holds_seconds {d : Duration} (short : d.Short) :
    ∃ q, Holds d.seconds q ∧ Drifts 3 q ((d.nanoseconds : ℚ) / 1000000000) := by
  unfold Short at short
  have split : (d.nanoseconds : ℚ) =
      1000000000 * (d.nanoseconds / 1000000000 : Nat) + (d.nanoseconds % 1000000000 : Nat) := by
    exact_mod_cast (Nat.div_add_mod d.nanoseconds 1000000000).symm
  obtain ⟨s, whole, wholeOff⟩ := Holds.ofWord (n := d.nanoseconds / 1000000000) (by omega)
  obtain ⟨n, rest, restOff⟩ := Holds.ofWord (n := d.nanoseconds % 1000000000) (by omega)
  have part := restOff.shrink (c := 1000000000) (by norm_num)
  obtain ⟨f, fraction, fractionOff⟩ := rest.div holds_billion (by norm_num)
    (part.ordinary (by decide)
      (moderate_quotient (d := 1000000000) (by omega) (by decide) (by decide)))
  have sum := (wholeOff.more (Nat.cast_nonneg _) (by decide)).add (fractionOff.trans part)
  have same : ((d.nanoseconds / 1000000000 : Nat) : ℚ) +
      ((d.nanoseconds % 1000000000 : Nat) : ℚ) / 1000000000 = d.nanoseconds / 1000000000 := by
    rw [split]
    ring
  rw [same] at sum
  obtain ⟨q, holds, off⟩ := whole.add fraction
    (sum.ordinary (by decide) (moderate_quotient (d := 1000000000) short (by decide) (by decide)))
  exact ⟨q, holds, off.trans sum⟩

/-- The milliseconds of a span are four roundings off. -/
theorem holds_fractional {d : Duration} (short : d.Short) :
    ∃ q, Holds d.fractional q ∧ Drifts 4 q ((d.nanoseconds : ℚ) / 1000000) := by
  obtain ⟨s, seconds, drift⟩ := holds_seconds short
  have scaled : Drifts 3 (s * 1000) ((d.nanoseconds : ℚ) / 1000000) := by
    have same : (d.nanoseconds : ℚ) / 1000000 = d.nanoseconds / 1000000000 * 1000 := by ring
    rw [same]
    exact drift.scale (by norm_num)
  obtain ⟨q, holds, off⟩ := seconds.mul holds_thousand
    (scaled.ordinary (by decide) (moderate_quotient (d := 1000000) short (by decide) (by decide)))
  exact ⟨q, holds, off.trans scaled⟩

/-! ## On the way in -/

/-- Rounding a quotient as `ofSeconds?` does takes the nearest whole number. -/
theorem near_quotient (n : Nat) {d : Nat} (pos : 0 < d) :
    |((if 2 * (n % d) < d || (2 * (n % d) == d && n / d % 2 == 0) then n / d else n / d + 1 : Nat) :
      ℚ) - n / d| ≤ 1 / 2 := by
  have divisor : (0 : ℚ) < d := by exact_mod_cast pos
  have split : (n : ℚ) = d * (n / d : Nat) + (n % d : Nat) := by
    exact_mod_cast (Nat.div_add_mod n d).symm
  have quotient : (n : ℚ) / d = (n / d : Nat) + ((n % d : Nat) : ℚ) / d := by
    rw [split, add_div, mul_div_cancel_left₀ _ divisor.ne']
  have above : 0 ≤ ((n % d : Nat) : ℚ) / d := by positivity
  have below : ((n % d : Nat) : ℚ) / d < 1 := by
    rw [div_lt_one divisor]
    exact_mod_cast Nat.mod_lt n pos
  rw [quotient, abs_le]
  split
  · rename_i down
    have half : ((n % d : Nat) : ℚ) / d ≤ 1 / 2 := by
      rw [div_le_div_iff₀ divisor two_pos]
      have : 2 * (n % d) ≤ d := by
        simp only [Bool.or_eq_true, Bool.and_eq_true, decide_eq_true_eq, beq_iff_eq] at down
        omega
      exact_mod_cast by omega
    constructor <;> linarith
  · rename_i up
    have half : 1 / 2 ≤ ((n % d : Nat) : ℚ) / d := by
      rw [div_le_div_iff₀ two_pos divisor]
      have : d ≤ 2 * (n % d) := by
        simp only [Bool.or_eq_true, Bool.and_eq_true, decide_eq_true_eq, beq_iff_eq] at up
        omega
      exact_mod_cast by omega
    push_cast
    constructor <;> linarith

/-- A double of seconds gives the nearest span. -/
theorem exists_ofSeconds? {x : Float} {q : ℚ} (amount : Amount (parts x) q) (bound : q < 2 ^ 64) :
    ∃ d, ofSeconds? x = some d ∧ |(d.nanoseconds : ℚ) - q * 1000000000| ≤ 1 / 2 := by
  have quotient := amount.quotient
  unfold ofSeconds?
  simp only
  generalize (binary x).significand * twoTo (binary x).exponent.toNat = num at quotient ⊢
  have pos := twoTo_pos (-(binary x).exponent).toNat
  generalize twoTo (-(binary x).exponent).toNat = den at quotient pos ⊢
  have divisor : (0 : ℚ) < den := by exact_mod_cast pos
  have word : ¬ wordBound ≤ num / den := by
    rw [Nat.le_div_iff_mul_le pos]
    rw [← quotient, div_lt_iff₀ divisor] at bound
    exact Nat.not_le.mpr (by exact_mod_cast bound)
  have scaled : q * 1000000000 = ((num * 1000000000 : Nat) : ℚ) / den := by
    rw [← quotient]
    push_cast
    ring
  rw [if_neg word, scaled]
  exact ⟨_, rfl, near_quotient _ pos⟩

/-- A span that is written in milliseconds, as a double, is read back near to itself. -/
theorem exists_ofFractional? {d : Duration} (short : d.Short) :
    ∃ d', ofFractional? d.fractional = some d' ∧ d.Near d' := by
  obtain ⟨p, milliseconds, drift⟩ := holds_fractional short
  have clamped : Holds (if d.fractional > 0.0 then d.fractional else 0.0) p := by
    split
    · exact milliseconds
    · rename_i notPositive
      have none : p = 0 :=
        le_antisymm (not_lt.mp (mt milliseconds.positive_iff.mpr notPositive)) milliseconds.nonneg
      rw [none]
      exact .zero
  have part := drift.shrink (c := 1000) (by norm_num)
  have same : (d.nanoseconds : ℚ) / 1000000 / 1000 = d.nanoseconds / 1000000000 := by ring
  rw [same] at part
  have size := moderate_quotient (d := 1000000000) short (by decide) (by decide)
  obtain ⟨q, seconds, off⟩ := clamped.div holds_thousand (by norm_num)
    (part.ordinary (by decide) size)
  have near := (off.trans part).near size.nonneg
  obtain ⟨below, above⟩ := abs_le.mp near
  have total : (d.nanoseconds : ℚ) < 2 ^ 63 * 1000000000 := by exact_mod_cast short
  have bound : q < 2 ^ 64 := by linarith
  obtain ⟨d', read, rounded⟩ := exists_ofSeconds? (Value.amount seconds) bound
  refine ⟨d', read, ?_⟩
  obtain ⟨roundedBelow, roundedAbove⟩ := abs_le.mp rounded
  have distance : |(d'.nanoseconds : ℚ) - d.nanoseconds| ≤ d.nanoseconds / 2 ^ 50 + 1 / 2 := by
    rw [abs_le]
    constructor <;> linarith
  have size : ((((d'.nanoseconds : Int) - d.nanoseconds).natAbs : Nat) : ℚ) =
      |(d'.nanoseconds : ℚ) - d.nanoseconds| := by
    rw [Nat.cast_natAbs]
    push_cast
    rfl
  unfold Near
  generalize ((d'.nanoseconds : Int) - d.nanoseconds).natAbs = off at size
  have scaled : (2 ^ 50 * off : ℚ) ≤ d.nanoseconds + 2 ^ 49 := by
    rw [size]
    linarith
  exact_mod_cast scaled

/-! ## What no clock can measure -/

section Limit

open Float.Model UnpackedFloat

/-- Seconds that do not fit 64 bits are no span. -/
theorem ofSeconds?_of_long {x : Float} (long : wordBound * twoTo (-(binary x).exponent).toNat ≤
    (binary x).significand * twoTo (binary x).exponent.toNat) : ofSeconds? x = none :=
  if_pos ((Nat.le_div_iff_mul_le (twoTo_pos _)).mpr long)

theorem ofSeconds?_eq_none {x : Float} {q : ℚ} (amount : Amount (parts x) q) (bound : 2 ^ 64 ≤ q) :
    ofSeconds? x = none := by
  refine ofSeconds?_of_long ?_
  have divisor : (0 : ℚ) < (twoTo (-(binary x).exponent).toNat : ℕ) := by
    exact_mod_cast twoTo_pos _
  rw [← amount.quotient, le_div_iff₀ divisor] at bound
  exact_mod_cast bound

theorem ofSeconds?_of_infinity {x : Float} {s : Sign} (taken : parts x = .infinity s) :
    ofSeconds? x = none := by
  have significand : (binary x).significand = 2 ^ 52 := by rw [binary_of_infinity taken]
  have exponent : (binary x).exponent = 972 := by rw [binary_of_infinity taken]
  refine ofSeconds?_of_long ?_
  rw [significand, exponent]
  have less : twoTo 12 ≤ twoTo (972 : Int).toNat := twoTo_le_twoTo (by decide)
  exact le_trans (by decide) (Nat.mul_le_mul_left (2 ^ 52) less)

theorem ofSeconds?_of_zero {x : Float} {s : Sign} (taken : parts x = .zero s) :
    ofSeconds? x = some .zero := by
  unfold ofSeconds?
  rw [binary_of_zero taken]
  have word : ¬ wordBound ≤ 0 := by decide
  simp only [Nat.zero_mul, Nat.zero_div, Nat.zero_mod, Nat.mul_zero, if_neg word, twoTo_pos,
    decide_true, Bool.true_or, if_true, zero]

/-- Numbers that are not positive count as zero. -/
theorem ofFractional?_of_not_positive {ms : Float} (notPositive : ¬ ms > 0.0) :
    ofFractional? ms = some .zero := by
  rw [ofFractional?, if_neg notPositive]
  exact ofSeconds?_of_zero (s := .positive) rfl

/-- The milliseconds of `2 ^ 64` seconds. -/
theorem parts_limit : parts 18446744073709551616000.0 =
    .finite .positive (125 * 2 ^ 46) 21 (by decide) := rfl

theorem amount_limit : Amount (parts 18446744073709551616000.0) (2 ^ 64 * 1000) := by
  have weight : ((125 * 2 ^ 46 : ℕ) : ℚ) * 2 ^ (21 : ℤ) = 2 ^ 64 * 1000 := by norm_num
  rw [parts_limit, ← weight]
  exact .finite

/-- A positive number of milliseconds is no span exactly when it is `2 ^ 64` seconds or more. -/
theorem ofFractional?_eq_none_of_finite {ms : Float} {m : ℕ} {e : ℤ} {pos : 0 < m}
    (taken : parts ms = .finite .positive m e pos) :
    ofFractional? ms = none ↔ (2 ^ 64 * 1000 : ℚ) ≤ m * 2 ^ e := by
  have canonical := parts_canonical ms
  rw [taken] at canonical
  have positive : ms > 0.0 := by
    rw [gt_zero_iff_parts, taken]
    rfl
  have amount : Amount (parts ms) (m * 2 ^ e) := by
    rw [taken]
    exact .finite
  have bound : (m * 2 ^ e : ℚ) / 1000 < 2 ^ (1023 : ℤ) := by
    have size := amount.lt (parts_canonical ms)
    have double : (2 : ℚ) ^ (1024 : ℤ) = 2 ^ 1 * 2 ^ (1023 : ℤ) := two_zpow_eq 1 (by norm_num)
    have large : (0 : ℚ) < 2 ^ (1023 : ℤ) := zpow_pos two_pos _
    rw [double] at size
    rw [div_lt_iff₀ (by norm_num)]
    generalize (2 : ℚ) ^ (1023 : ℤ) = top at size large ⊢
    linarith
  obtain ⟨q, seconds, room, rounded⟩ :=
    div_rounded amount (Value.amount holds_thousand) (by norm_num) bound
  rw [← parts_div room] at seconds
  rw [ofFractional?, if_pos positive]
  constructor
  · intro none
    by_contra small
    have less : (m * 2 ^ e : ℚ) < (125 * 2 ^ 46 : ℕ) * 2 ^ (21 : ℤ) :=
      lt_of_lt_of_eq (not_le.mp small) (by norm_num)
    have previous := le_previous canonical (by norm_num) (by norm_num) (by norm_num) less
    have below : q ≤ (2 ^ 53 - 1 : ℕ) * 2 ^ (11 : ℤ) := by
      refine rounded.below _ ⟨2 ^ 53 - 1, 11, by norm_num, by norm_num, rfl⟩ ?_
      norm_num at previous ⊢
      linarith
    obtain ⟨d, found, -⟩ := exists_ofSeconds? seconds (lt_of_le_of_lt below (by norm_num))
    rw [none] at found
    cases found
  · intro large
    have above := rounded.above (2 ^ 64) ⟨1, 64, by norm_num, by norm_num, by norm_num⟩ (by linarith)
    exact ofSeconds?_eq_none seconds above

/-- A number of milliseconds is no span exactly when it is `2 ^ 64` seconds or more. -/
theorem ofFractional?_eq_none_iff (ms : Float) :
    ofFractional? ms = none ↔ 18446744073709551616000.0 ≤ ms := by
  have nothing (notPositive : ¬ UnpackedFloat.lt (.zero .positive) (parts ms) = true)
      (less : ¬ (parts 18446744073709551616000.0).le (parts ms) = true) :
      ofFractional? ms = none ↔ 18446744073709551616000.0 ≤ ms := by
    rw [← gt_zero_iff_parts] at notPositive
    rw [← le_iff_parts] at less
    rw [ofFractional?_of_not_positive notPositive]
    exact ⟨nofun, fun more => absurd more less⟩
  cases taken : parts ms with
  | notANumber => exact nothing (by rw [taken]; exact nofun) (by rw [taken, parts_limit]; exact nofun)
  | zero s => exact nothing (by rw [taken]; exact nofun) (by rw [taken, parts_limit]; exact nofun)
  | infinity s =>
    cases s with
    | negative => exact nothing (by rw [taken]; exact nofun) (by rw [taken, parts_limit]; exact nofun)
    | positive =>
      have positive : ms > 0.0 := by
        rw [gt_zero_iff_parts, taken]
        rfl
      have seconds : parts (ms / 1000.0) = .infinity .positive := by
        rw [parts_div, taken]
        · rfl
        · rw [taken]
          trivial
      rw [ofFractional?, if_pos positive, ofSeconds?_of_infinity seconds, le_iff_parts, parts_limit,
        taken]
      exact ⟨fun _ => rfl, fun _ => rfl⟩
  | finite s m e pos =>
    cases s with
    | negative => exact nothing (by rw [taken]; exact nofun) (by rw [taken, parts_limit]; exact nofun)
    | positive =>
      have canonical := parts_canonical ms
      rw [le_iff_parts, ofFractional?_eq_none_of_finite taken]
      rw [taken] at canonical ⊢
      exact (amount_limit.le_iff .finite (parts_canonical _) canonical).symm

end Limit

end Duration

end CollectionRunner
