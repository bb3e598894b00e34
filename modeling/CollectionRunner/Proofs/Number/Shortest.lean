import CollectionRunner.Proofs.Number.Double

/-!
# The shortest digits of a double say which double it is

The reals that round to a double lie between the middles of the double and its two neighbours
(`Binary.Around`); the middles belong to the double with the even significand, so no real rounds to
two doubles (`Binary.Around.unique`).  The search for the shortest decimal tries grids from coarse
to fine and checks each candidate against these ends (`Binary.holds_iff`).  It is met on the
eighteenth grid at the latest, whose step is shorter than the way to the upper end, so its answer is
always among the reals that round to the double (`shortest_around`).
-/

namespace CollectionRunner.Number

open Float.Model UnpackedFloat

/-! ## The reals that round to a double -/

/-- The number that a decimal stands for. -/
def Decimal.value (d : Decimal) : ℚ := d.coefficient * 10 ^ d.exponent

namespace Binary

/-- The number that a double stands for, without its sign. -/
def value (b : Binary) : ℚ := b.significand * 2 ^ b.exponent

/-- The middle between a double and the one below it, which is half as far away as the one above
when the double is a power of two. -/
def start (b : Binary) : ℚ :=
  (b.significand - if b.significand = 2 ^ 52 ∧ b.exponent ≠ -1074 then 1 / 4 else 1 / 2) *
    2 ^ b.exponent

/-- The middle between a double and the one above it. -/
def stop (b : Binary) : ℚ := (b.significand + 1 / 2) * 2 ^ b.exponent

/-- A number rounds to a double, with ties to the even significand. -/
structure Around (b : Binary) (q : ℚ) : Prop where
  above : b.start ≤ q
  below : q ≤ b.stop
  inside : b.significand % 2 = 1 → b.start < q ∧ q < b.stop

/-- The fields of a double other than zero. -/
structure Full (b : Binary) : Prop where
  pos : 0 < b.significand
  bound : b.significand < 2 ^ 53
  least : -1074 ≤ b.exponent
  greatest : b.exponent ≤ 971
  full : 2 ^ 52 ≤ b.significand ∨ b.exponent = -1074

theorem full_of_parts {x : Float} {s : Sign} {m : ℕ} {e : ℤ} {pos : 0 < m}
    (taken : parts x = .finite s m e pos) : Full ⟨m, e⟩ := by
  have canonical := parts_canonical x
  rw [taken] at canonical
  obtain ⟨bound, least, greatest, full⟩ := canonical
  exact ⟨pos, bound, least, greatest, full⟩

variable {b c : Binary} {q : ℚ}

theorem start_le (b : Binary) : b.start ≤ (b.significand - 1 / 4) * 2 ^ b.exponent := by
  unfold start
  gcongr
  split <;> norm_num

theorem le_start (b : Binary) : (b.significand - 1 / 2) * 2 ^ b.exponent ≤ b.start := by
  unfold start
  gcongr
  split <;> norm_num

/-- The least double is `2 ^ -1074`. -/
theorem Full.le_start (full : b.Full) : 2 ^ (-1075 : ℤ) ≤ b.start := by
  have one : (1 : ℚ) ≤ b.significand := by exact_mod_cast full.pos
  have unit : (2 : ℚ) ^ (-1074 : ℤ) ≤ 2 ^ b.exponent := zpow_le_zpow_right₀ one_le_two full.least
  calc (2 : ℚ) ^ (-1075 : ℤ) = 2 ^ (-1074 : ℤ) * 2⁻¹ := zpow_sub_one₀ two_ne_zero (-1074)
    _ = 1 / 2 * 2 ^ (-1074 : ℤ) := by ring
    _ ≤ (b.significand - 1 / 2) * 2 ^ b.exponent :=
      mul_le_mul (by linarith) unit (zpow_nonneg two_pos.le _) (by linarith)
    _ ≤ b.start := b.le_start

/-- All doubles are below `2 ^ 1024`. -/
theorem Full.stop_le (full : b.Full) : b.stop ≤ 2 ^ (1024 : ℤ) := by
  have most : (b.significand : ℚ) + 1 ≤ 2 ^ (53 : ℤ) := by exact_mod_cast full.bound
  have unit : (2 : ℚ) ^ b.exponent ≤ 2 ^ (971 : ℤ) := zpow_le_zpow_right₀ one_le_two full.greatest
  calc b.stop ≤ 2 ^ (53 : ℤ) * 2 ^ (971 : ℤ) :=
        mul_le_mul (by linarith) unit (zpow_nonneg two_pos.le _) (zpow_nonneg two_pos.le _)
    _ = 2 ^ (1024 : ℤ) := (zpow_add₀ two_ne_zero 53 971).symm

theorem Around.pos (around : b.Around q) (full : b.Full) : 0 < q :=
  lt_of_lt_of_le (zpow_pos two_pos _) (full.le_start.trans around.above)

/-- Between two doubles lies the end of the first and the start of the second, and where these meet
one of the significands is odd. -/
theorem apart (bFull : b.Full) (cFull : c.Full)
    (order : b.exponent < c.exponent ∨
      b.exponent = c.exponent ∧ b.significand < c.significand) :
    b.stop < c.start ∨
      b.stop = c.start ∧ (b.significand % 2 = 1 ∨ c.significand % 2 = 1) := by
  have unit : (0 : ℚ) < 2 ^ b.exponent := zpow_pos two_pos _
  rcases order with finer | ⟨level, smaller⟩
  · -- The second double is at least `2 ^ 52` of its units, each two or more of the first one's.
    have large : 2 ^ 52 ≤ c.significand := by
      have := bFull.least
      exact cFull.full.resolve_right (by omega)
    have start : ((2 : ℚ) ^ 52 - 1 / 4) * 2 ^ c.exponent ≤ c.start := by
      refine mul_le_mul_of_nonneg_right ?_ (zpow_nonneg two_pos.le _)
      split
      · rename_i power
        rw [power.1]
        norm_num
      · rename_i notPower
        have exponent : c.exponent ≠ -1074 := by
          have := bFull.least
          omega
        have above : 2 ^ 52 + 1 ≤ c.significand := by
          have : c.significand ≠ 2 ^ 52 := fun power => notPower ⟨power, exponent⟩
          omega
        have above : (2 : ℚ) ^ 52 + 1 ≤ c.significand := by exact_mod_cast above
        linarith
    have units : 2 * (2 : ℚ) ^ b.exponent ≤ 2 ^ c.exponent := by
      rw [← zpow_one_add₀ two_ne_zero]
      exact zpow_le_zpow_right₀ one_le_two (by omega)
    have last : ((2 : ℚ) ^ 53 - 1 / 2) * 2 ^ b.exponent ≤ c.start := by
      refine le_trans ?_ start
      calc ((2 : ℚ) ^ 53 - 1 / 2) * 2 ^ b.exponent
          = (2 ^ 52 - 1 / 4) * (2 * 2 ^ b.exponent) := by ring
        _ ≤ (2 ^ 52 - 1 / 4) * 2 ^ c.exponent := by gcongr
    by_cases full : b.significand + 1 = 2 ^ 53
    · have stop : b.stop = ((2 : ℚ) ^ 53 - 1 / 2) * 2 ^ b.exponent := by
        have : (b.significand : ℚ) + 1 = 2 ^ 53 := by exact_mod_cast full
        rw [Binary.stop, ← this]
        ring
      rcases (stop.trans_le last).lt_or_eq with strict | meet
      · exact .inl strict
      · exact .inr ⟨meet, .inl (by omega)⟩
    · have room : b.significand + 2 ≤ 2 ^ 53 := by
        have := bFull.bound
        omega
      have room : (b.significand : ℚ) + 2 ≤ 2 ^ 53 := by exact_mod_cast room
      refine .inl (lt_of_lt_of_le ?_ last)
      unfold stop
      gcongr
      linarith
  · have next : (b.significand : ℚ) + 1 ≤ c.significand := by exact_mod_cast smaller
    have start := c.le_start
    rw [← level] at start
    have ends : b.stop ≤ (c.significand - 1 / 2) * 2 ^ b.exponent := by
      unfold stop
      gcongr
      linarith
    rcases (ends.trans start).lt_or_eq with strict | meet
    · exact .inl strict
    · refine .inr ⟨meet, ?_⟩
      have touch : b.stop = (c.significand - 1 / 2) * 2 ^ b.exponent :=
        le_antisymm ends (start.trans meet.ge)
      have succ := mul_right_cancel₀ unit.ne' touch
      have succ : (c.significand : ℚ) = b.significand + 1 := by linarith
      have succ : c.significand = b.significand + 1 := by exact_mod_cast succ
      omega

/-- No number is around two doubles where one ends before the other starts, or where they meet and
one of them is odd. -/
theorem not_around_of_apart (meets : b.stop < c.start ∨
      b.stop = c.start ∧ (b.significand % 2 = 1 ∨ c.significand % 2 = 1))
    (first : b.Around q) (second : c.Around q) : False := by
  rcases meets with gap | ⟨meet, odd | odd⟩
  · exact absurd (first.below.trans_lt gap) (not_lt.mpr second.above)
  · have := (first.inside odd).2
    have := second.above
    linarith
  · have := (second.inside odd).1
    have := first.below
    linarith

/-- No number rounds to two doubles. -/
theorem Around.unique (bFull : b.Full) (cFull : c.Full) (first : b.Around q)
    (second : c.Around q) : b = c := by
  obtain ⟨m, e⟩ := b
  obtain ⟨n, k⟩ := c
  -- Of two doubles one comes first, by exponent and then by significand.
  rcases lt_trichotomy e k with finer | rfl | coarser
  · exact (not_around_of_apart (apart bFull cFull (.inl finer)) first second).elim
  · rcases lt_trichotomy m n with smaller | rfl | larger
    · exact (not_around_of_apart (apart bFull cFull (.inr ⟨rfl, smaller⟩)) first second).elim
    · rfl
    · exact (not_around_of_apart (apart cFull bFull (.inr ⟨rfl, larger⟩)) second first).elim
  · exact (not_around_of_apart (apart cFull bFull (.inl coarser)) second first).elim

theorem around_of_between (start : b.start < q) (stop : q < b.stop) : b.Around q :=
  ⟨start.le, stop.le, fun _ => ⟨start, stop⟩⟩

theorem value_around (b : Binary) : b.Around b.value := by
  have unit : (0 : ℚ) < 2 ^ b.exponent := zpow_pos two_pos _
  refine around_of_between (b.start_le.trans_lt ?_) ?_
  · unfold value
    gcongr
    linarith
  · unfold value stop
    gcongr
    linarith

end Binary

/-! ## Checking a candidate -/

theorem zpow_eq_quotient {base : ℕ} (pos : 0 < base) (p : ℤ) :
    (base : ℚ) ^ p = (base ^ p.toNat : ℕ) / (base ^ (-p).toNat : ℕ) := by
  have nonzero : (base : ℚ) ≠ 0 := by exact_mod_cast pos.ne'
  rw [Nat.cast_pow, Nat.cast_pow, ← zpow_natCast, ← zpow_natCast, ← zpow_sub₀ nonzero]
  congr 1
  omega

theorem ten_zpow (p : ℤ) : (10 : ℚ) ^ p = tenTo p.toNat / tenTo (-p).toNat :=
  zpow_eq_quotient (by decide) p

theorem two_zpow (p : ℤ) : (2 : ℚ) ^ p = twoTo p.toNat / twoTo (-p).toNat :=
  zpow_eq_quotient (by decide) p

section Grid

variable {num den k : ℕ} (pos : 0 < den) (p : ℤ)

include pos

theorem quotient_le_iff :
    (num : ℚ) / den ≤ k * 10 ^ p ↔ num * tenTo (-p).toNat ≤ k * den * tenTo p.toNat := by
  have scale : (0 : ℚ) < tenTo (-p).toNat := by exact_mod_cast tenTo_pos _
  rw [ten_zpow, mul_div_assoc', div_le_div_iff₀ (by exact_mod_cast pos) scale, mul_right_comm]
  exact_mod_cast Iff.rfl

theorem le_quotient_iff :
    k * 10 ^ p ≤ (num : ℚ) / den ↔ k * den * tenTo p.toNat ≤ num * tenTo (-p).toNat := by
  have scale : (0 : ℚ) < tenTo (-p).toNat := by exact_mod_cast tenTo_pos _
  rw [ten_zpow, mul_div_assoc', div_le_div_iff₀ scale (by exact_mod_cast pos), mul_right_comm]
  exact_mod_cast Iff.rfl

theorem quotient_lt_iff :
    (num : ℚ) / den < k * 10 ^ p ↔ num * tenTo (-p).toNat < k * den * tenTo p.toNat := by
  rw [← not_le, le_quotient_iff pos, not_le]

theorem lt_quotient_iff :
    k * 10 ^ p < (num : ℚ) / den ↔ k * den * tenTo p.toNat < num * tenTo (-p).toNat := by
  rw [← not_le, quotient_le_iff pos, not_le]

end Grid

namespace Binary

variable {b : Binary}

theorem den_pos (b : Binary) : 0 < b.neighbourhood.den :=
  Nat.mul_pos (by decide) (twoTo_pos _)

theorem quarters (b : Binary) (n : ℕ) :
    ((n * twoTo b.exponent.toNat : ℕ) : ℚ) / b.neighbourhood.den = n / 4 * 2 ^ b.exponent := by
  have den : b.neighbourhood.den = 4 * twoTo (-b.exponent).toNat := rfl
  rw [den, two_zpow]
  push_cast
  exact mul_div_mul_comm _ _ _ _

/-- The lower end that the search works with is the middle below the double. -/
theorem quotient_low (full : b.Full) :
    (b.neighbourhood.low : ℚ) / b.neighbourhood.den = b.start := by
  refine (b.quarters _).trans ?_
  have pos := full.pos
  have power : (b.significand = twoTo 52 && b.exponent != -1074) = true ↔
      b.significand = 2 ^ 52 ∧ b.exponent ≠ -1074 := by
    rw [Bool.and_eq_true, decide_eq_true_iff, bne_iff_ne]
    rfl
  unfold start
  simp only [power]
  split
  · rw [Nat.cast_sub (by omega)]
    push_cast
    ring
  · rw [Nat.cast_sub (by omega)]
    push_cast
    ring

theorem quotient_value (b : Binary) :
    (b.neighbourhood.value : ℚ) / b.neighbourhood.den = b.value := by
  refine (b.quarters _).trans ?_
  unfold value
  push_cast
  ring

theorem quotient_high (b : Binary) :
    (b.neighbourhood.high : ℚ) / b.neighbourhood.den = b.stop := by
  refine (b.quarters _).trans ?_
  unfold stop
  push_cast
  ring

/-- The check of a candidate asks whether it rounds to the double. -/
theorem holds_iff (full : b.Full) (k : ℕ) (p : ℤ) :
    b.neighbourhood.holds k p = true ↔ b.Around (k * 10 ^ p) := by
  have closed : b.neighbourhood.closed = (b.significand % 2 == 0) := rfl
  unfold Neighbourhood.holds
  simp only [closed, beq_iff_eq]
  split
  · rename_i even
    rw [Bool.and_eq_true, decide_eq_true_iff, decide_eq_true_iff, ← quotient_le_iff b.den_pos,
      ← le_quotient_iff b.den_pos, quotient_low full, quotient_high]
    exact ⟨fun ⟨above, below⟩ => ⟨above, below, by omega⟩,
      fun around => ⟨around.above, around.below⟩⟩
  · rename_i odd
    rw [Bool.and_eq_true, decide_eq_true_iff, decide_eq_true_iff, ← quotient_lt_iff b.den_pos,
      ← lt_quotient_iff b.den_pos, quotient_low full, quotient_high]
    exact ⟨fun ⟨start, stop⟩ => around_of_between start stop,
      fun around => around.inside (by omega)⟩

end Binary

/-! ## The search -/

namespace Neighbourhood

/-- The multiple of the step next to the value from below. -/
def down (n : Neighbourhood) (p : ℤ) : ℕ :=
  n.value * tenTo (-p).toNat / (n.den * tenTo p.toNat)

variable {n : Neighbourhood} {p top : ℤ} {k : ℕ}

/-- A grid offers the multiples on both sides of the value, the closer one first. -/
theorem onGrid_eq (n : Neighbourhood) (p : ℤ) : ∃ first second,
    (first = n.down p ∧ second = n.down p + 1 ∨ first = n.down p + 1 ∧ second = n.down p) ∧
    n.onGrid p = if n.holds first p then some first
      else if n.holds second p then some second else none := by
  refine ⟨_, _, ?_, rfl⟩
  split
  · rw [if_pos rfl]
    exact .inl ⟨rfl, rfl⟩
  · rw [if_neg (Nat.succ_ne_self _)]
    exact .inr ⟨rfl, rfl⟩

theorem holds_of_onGrid (found : n.onGrid p = some k) : n.holds k p = true := by
  obtain ⟨first, second, -, answer⟩ := n.onGrid_eq p
  rw [answer] at found
  split at found
  · cases found
    assumption
  · obtain ⟨holds, same⟩ := Option.ite_none_right_eq_some.mp found
    cases same
    exact holds

/-- A grid is met when the upper one of the two candidates is. -/
theorem onGrid_isSome (upper : n.holds (n.down p + 1) p = true) : (n.onGrid p).isSome := by
  obtain ⟨first, second, candidates, answer⟩ := n.onGrid_eq p
  rw [answer]
  rcases candidates with ⟨rfl, rfl⟩ | ⟨rfl, rfl⟩
  · rw [if_pos upper]
    split <;> rfl
  · rw [if_pos upper]
    rfl

/-- The search stops at a grid that is met before the fuel is spent. -/
theorem search_spec (nonzero : ∀ k p, n.holds k p = true → k ≠ 0) {stop : ℕ}
    (met : (n.onGrid (top - stop)).isSome) {fuel count : ℕ} (reached : count ≤ stop)
    (room : stop < count + fuel) :
    ∃ k p, n.holds k p = true ∧ n.search top fuel count = Decimal.stripped 20 ⟨k, p⟩ := by
  induction fuel generalizing count with
  | zero => omega
  | succ fuel ih =>
    rw [search]
    cases found : n.onGrid (top - count) with
    | some k =>
      have holds := holds_of_onGrid found
      exact ⟨k, top - count, holds, if_neg (nonzero k _ holds)⟩
    | none =>
      have later : count ≠ stop := by
        rintro rfl
        rw [found] at met
        cases met
      exact ih (by omega) (by omega)

end Neighbourhood

/-- A decimal stands for the same number when the zeros that end it are dropped. -/
theorem Decimal.value_stripped (fuel : ℕ) (d : Decimal) : (stripped fuel d).value = d.value := by
  induction fuel generalizing d with
  | zero => rfl
  | succ fuel ih =>
    rw [stripped]
    split
    · rename_i zero
      have cut : d.coefficient = 10 * (d.coefficient / 10) := by omega
      rw [ih, value, value, zpow_add_one₀ (by norm_num), cut]
      push_cast
      rw [Nat.mul_div_cancel_left _ (by decide)]
      ring
    · rfl

/-! ## Where the point stands -/

theorem tenTo_le_of_digitCount {n : ℕ} (pos : 0 < n) : tenTo (digitCount n - 1) ≤ n := by
  rcases Nat.eq_zero_or_pos (digitCount n - 1) with one | more
  · rw [one]
    exact pos
  · refine Nat.le_of_not_lt fun small => ?_
    have fewer : digitCount n ≤ digitCount n - 1 :=
      (Nat.length_toDigits_le_iff (by decide) more).mpr small
    omega

theorem lt_tenTo_digitCount (n : ℕ) : n < tenTo (digitCount n) :=
  (Nat.length_toDigits_le_iff (by decide) Nat.length_toDigits_pos).mp (Nat.le_refl _)

/-- A quotient reaches to the place before its point, where `pointPosition` puts that. -/
theorem le_of_pointPosition {num den : ℕ} (numPos : 0 < num) (denPos : 0 < den) :
    (10 : ℚ) ^ (pointPosition num den - 1) ≤ num / den := by
  have reaches {p : ℤ} (scaled : den * tenTo p.toNat ≤ num * tenTo (-p).toNat) :
      (10 : ℚ) ^ p ≤ num / den := by
    rw [← one_mul ((10 : ℚ) ^ p), ← Nat.cast_one, le_quotient_iff denPos, Nat.one_mul]
    exact scaled
  unfold pointPosition
  split
  · rename_i large
    have lower := tenTo_le_of_digitCount (Nat.div_pos large denPos)
    refine reaches ?_
    generalize digitCount (num / den) = d at lower ⊢
    rw [show ((d : ℤ) - 1).toNat = d - 1 by omega]
    calc den * tenTo (d - 1) ≤ den * (num / den) := Nat.mul_le_mul_left den lower
      _ ≤ num := Nat.mul_div_le num den
      _ ≤ num * tenTo (-((d : ℤ) - 1)).toNat := Nat.le_mul_of_pos_right num (tenTo_pos _)
  · have upper := lt_tenTo_digitCount (den / num)
    have lower : 0 < digitCount (den / num) := Nat.length_toDigits_pos
    generalize digitCount (den / num) = d at lower upper ⊢
    dsimp only
    split
    · rename_i power
      refine reaches ?_
      rw [show ((2 - (d : ℤ)) - 1).toNat = 0 by omega,
        show (-((2 - (d : ℤ)) - 1)).toNat = d - 1 by omega, power]
      exact (Nat.mul_one den).le
    · refine reaches ?_
      rw [show ((1 - (d : ℤ)) - 1).toNat = 0 by omega,
        show (-((1 - (d : ℤ)) - 1)).toNat = d by omega, Nat.mul_comm num]
      exact ((Nat.mul_one den).le.trans_lt ((Nat.div_lt_iff_lt_mul numPos).mp upper)).le

/-! ## The answer -/

namespace Binary

variable {b : Binary}

theorem value_between (b : Binary) (p : ℤ) :
    b.neighbourhood.down p * 10 ^ p ≤ b.value ∧
      b.value < (b.neighbourhood.down p + 1 : ℕ) * 10 ^ p := by
  have step : 0 < b.neighbourhood.den * tenTo p.toNat := Nat.mul_pos b.den_pos (tenTo_pos _)
  rw [← quotient_value, le_quotient_iff b.den_pos, quotient_lt_iff b.den_pos, Nat.mul_assoc,
    Nat.mul_assoc]
  exact ⟨Nat.div_mul_le_self _ _, Nat.lt_mul_of_div_lt (Nat.lt_succ_self _) step⟩

/-- On a grid that gives the double eighteen digits, the next multiple rounds to it. -/
theorem next_around (full : b.Full) {p : ℤ} (fine : 10 ^ 17 * (10 : ℚ) ^ p ≤ b.value) :
    b.Around ((b.neighbourhood.down p + 1 : ℕ) * 10 ^ p) := by
  obtain ⟨down, up⟩ := b.value_between p
  have unit : (0 : ℚ) < 2 ^ b.exponent := zpow_pos two_pos _
  have small : (b.significand : ℚ) * 2 ^ b.exponent ≤ 2 ^ 53 * 2 ^ b.exponent := by
    gcongr
    exact_mod_cast full.bound.le
  have value : b.value = b.significand * 2 ^ b.exponent := rfl
  have stop : b.stop = b.value + 1 / 2 * 2 ^ b.exponent := by
    rw [Binary.stop, value]
    ring
  refine around_of_between (b.value_around.above.trans_lt up) ?_
  push_cast
  rw [stop]
  linarith

end Binary

/-- The shortest decimal is among the reals that round to the double. -/
theorem shortest_around {x : Float} {s : Sign} {m : ℕ} {e : ℤ} {pos : 0 < m}
    (taken : parts x = .finite s m e pos) :
    Binary.Around ⟨m, e⟩ (shortest x).value := by
  have full := Binary.full_of_parts taken
  generalize fields : Binary.mk m e = b at full
  have read : binary x = b := (binary_of_finite taken).1.trans fields
  have nonzero (k : ℕ) (p : ℤ) (holds : b.neighbourhood.holds k p = true) : k ≠ 0 := by
    rintro rfl
    have := ((Binary.holds_iff full 0 p).mp holds).pos full
    simp at this
  have found : shortest x =
      b.neighbourhood.search (pointPosition b.neighbourhood.value b.neighbourhood.den) 20 1 := by
    unfold shortest
    rw [read]
    exact if_neg full.pos.ne'
  have valuePos : 0 < b.neighbourhood.value :=
    Nat.mul_pos (Nat.mul_pos (by decide) full.pos) (twoTo_pos _)
  have met : (b.neighbourhood.onGrid
      (pointPosition b.neighbourhood.value b.neighbourhood.den - (18 : ℕ))).isSome := by
    have lower := le_of_pointPosition valuePos b.den_pos
    generalize pointPosition b.neighbourhood.value b.neighbourhood.den = top at lower ⊢
    refine Neighbourhood.onGrid_isSome ((Binary.holds_iff full _ _).mpr ?_)
    refine Binary.next_around full ?_
    calc 10 ^ 17 * (10 : ℚ) ^ (top - (18 : ℕ)) = 10 ^ (top - 1) := by
          rw [← zpow_natCast, ← zpow_add₀ (by norm_num)]
          congr 1
          push_cast
          ring
      _ ≤ b.value := lower.trans_eq b.quotient_value
  obtain ⟨k, p, holds, answer⟩ : ∃ k p, b.neighbourhood.holds k p = true ∧
      b.neighbourhood.search (pointPosition b.neighbourhood.value b.neighbourhood.den) 20 1 =
        Decimal.stripped 20 ⟨k, p⟩ :=
    Neighbourhood.search_spec nonzero met (by decide) (by decide)
  rw [found, answer, Decimal.value_stripped]
  exact (Binary.holds_iff full k p).mp holds

end CollectionRunner.Number
