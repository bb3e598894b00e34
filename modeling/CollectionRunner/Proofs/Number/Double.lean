import CollectionRunner.Number.Digits
import Mathlib

/-!
# Doubles taken apart

A double is sign, exponent and significand in one word.  `Number.parts` takes it apart the way
the arithmetic of doubles does; what this library reads off the word (`whole?`, `finite`) is read
off the parts (`whole?_eq`, `finite_eq`).  Finite parts that come from a word are `Canonical`, and
canonical parts are put together and taken apart again without loss (`unpack_pack`).  So two
doubles that are the same whole number are equal as doubles (`beq_of_whole?`), and equal doubles are
the same whole number or none (`whole?_eq_of_beq`).
-/

namespace CollectionRunner.Number

open Float.Model UnpackedFloat

/-! ## The fields of a word -/

section Fields

variable (b : BitVec Format.binary64.numBits)

theorem toNat_unpackExponent : (unpackExponent b).toNat = b.toNat / 2 ^ 52 % 2048 := by
  simp [unpackExponent, BitVec.extractLsb, Nat.shiftRight_eq_div_pow]

theorem toNat_unpackMantissa : (unpackMantissa b).toNat = b.toNat % 2 ^ 52 := by
  simp [unpackMantissa, BitVec.extractLsb]

theorem toNat_unpackSign : (unpackSign b).toNat = b.toNat / 2 ^ 63 := by
  have bound : b.toNat < 2 ^ 64 := b.isLt
  simp [unpackSign, BitVec.extractLsb, Nat.shiftRight_eq_div_pow]
  omega

/-- The sign of a word. -/
def signOf (w : Nat) : Sign := if w / 2 ^ 63 = 1 then .negative else .positive

/-- What a word is taken apart into, by its exponent field and its fraction field. -/
inductive Parts (w : Nat) : UnpackedFloat → Prop
  | infinity : w / 2 ^ 52 % 2048 = 2047 → w % 2 ^ 52 = 0 → Parts w (.infinity (signOf w))
  | notANumber : w / 2 ^ 52 % 2048 = 2047 → w % 2 ^ 52 ≠ 0 → Parts w .notANumber
  | zero : w / 2 ^ 52 % 2048 = 0 → w % 2 ^ 52 = 0 → Parts w (.zero (signOf w))
  | subnormal (pos : 0 < w % 2 ^ 52) : w / 2 ^ 52 % 2048 = 0 →
    Parts w (.finite (signOf w) (w % 2 ^ 52) (-1074) pos)
  | normal (biased : Nat) (pos : 0 < w % 2 ^ 52 + 2 ^ 52) : w / 2 ^ 52 % 2048 = biased →
    0 < biased → biased < 2047 →
    Parts w (.finite (signOf w) (w % 2 ^ 52 + 2 ^ 52) ((biased : Int) - 1075) pos)

theorem ofBitVec_unpackSign : Sign.ofBitVec (unpackSign b) = signOf b.toNat := by
  have bound : b.toNat < 2 ^ 64 := b.isLt
  have zero_iff : unpackSign b = 0#1 ↔ b.toNat / 2 ^ 63 = 0 := by
    rw [← BitVec.toNat_inj, toNat_unpackSign]
    rfl
  unfold Sign.ofBitVec signOf
  simp only [zero_iff]
  split <;> split <;> first | rfl | omega

theorem unpackExponent_eq_neg_one_iff :
    unpackExponent b = -1#_ ↔ b.toNat / 2 ^ 52 % 2048 = 2047 := by
  rw [← BitVec.toNat_inj, toNat_unpackExponent]
  rfl

theorem unpackExponent_eq_zero_iff :
    unpackExponent b = 0#_ ↔ b.toNat / 2 ^ 52 % 2048 = 0 := by
  rw [← BitVec.toNat_inj, toNat_unpackExponent]
  rfl

theorem unpackMantissa_eq_zero_iff : unpackMantissa b = 0#_ ↔ b.toNat % 2 ^ 52 = 0 := by
  rw [← BitVec.toNat_inj, toNat_unpackMantissa]
  rfl

/-- The significand of a normal double has a leading bit that its word leaves out. -/
theorem toNat_implicit_append (m : BitVec 52) : (1#1 ++ m).toNat = m.toNat + 2 ^ 52 := by
  rw [BitVec.toNat_append, ← Nat.shiftLeft_add_eq_or_of_lt m.isLt]
  simp [Nat.shiftLeft_eq, Nat.add_comm]

/-- A word is unpacked by its exponent and its fraction field, in the five ways that these allow. -/
theorem unpack_parts : Parts b.toNat (UnpackedFloat.unpack .binary64 b) := by
  unfold UnpackedFloat.unpack
  simp only [ofBitVec_unpackSign, toNat_unpackExponent, toNat_unpackMantissa,
    toNat_implicit_append]
  split
  · rename_i ones
    have exponent := (unpackExponent_eq_neg_one_iff b).mp ones
    split
    · rename_i fraction
      exact .infinity exponent ((unpackMantissa_eq_zero_iff b).mp fraction)
    · rename_i fraction
      exact .notANumber exponent (mt (unpackMantissa_eq_zero_iff b).mpr fraction)
  · rename_i notOnes
    have below := mt (unpackExponent_eq_neg_one_iff b).mpr notOnes
    split
    · rename_i zeros
      have exponent := (unpackExponent_eq_zero_iff b).mp zeros
      split
      · rename_i fraction
        exact .zero exponent ((unpackMantissa_eq_zero_iff b).mp fraction)
      · rename_i fraction
        have pos := Nat.pos_of_ne_zero (mt (unpackMantissa_eq_zero_iff b).mpr fraction)
        simp only [exponent]
        exact .subnormal pos exponent
    · rename_i notZeros
      have above := mt (unpackExponent_eq_zero_iff b).mpr notZeros
      exact .normal _ (by omega) rfl (by omega) (by omega)

end Fields

theorem Parts.unique {w : Nat} {f g : UnpackedFloat} (first : Parts w f) (second : Parts w g) :
    f = g := by
  cases first <;> cases second <;> first | rfl | omega | (subst_vars; rfl)

/-! ## Putting parts together -/

/-- The weight of a sign in a word. -/
def signWeight : Sign → Nat
  | .negative => 2 ^ 63
  | .positive => 0

theorem toNat_packComponents (s : Sign) (exponent : BitVec 11) (mantissa : BitVec 52) :
    (packComponents .binary64 s exponent mantissa).toNat =
      signWeight s + exponent.toNat * 2 ^ 52 + mantissa.toNat := by
  unfold packComponents
  rw [BitVec.toNat_append, BitVec.toNat_append, ← Nat.shiftLeft_add_eq_or_of_lt mantissa.isLt,
    ← Nat.shiftLeft_add_eq_or_of_lt exponent.isLt]
  cases s with
  | negative => simp [Sign.toBitVec, signWeight, Nat.shiftLeft_eq]; omega
  | positive => simp [Sign.toBitVec, signWeight, Nat.shiftLeft_eq]

/-- The fields of a word that was put together from them. -/
structure Fields (w : Nat) (s : Sign) (biased fraction : Nat) : Prop where
  sign : signOf w = s
  biased : w / 2 ^ 52 % 2048 = biased
  fraction : w % 2 ^ 52 = fraction

/-- The fields of a word put together from a sign, an exponent and a fraction are these three. -/
theorem fields_packComponents (s : Sign) (exponent : BitVec 11) (mantissa : BitVec 52) :
    Fields (packComponents .binary64 s exponent mantissa).toNat s exponent.toNat
      mantissa.toNat := by
  have exponentBound := exponent.isLt
  have mantissaBound := mantissa.isLt
  rw [toNat_packComponents]
  cases s with
  | negative =>
    simp only [signWeight]
    exact ⟨if_pos (by omega), by omega, by omega⟩
  | positive =>
    simp only [signWeight]
    exact ⟨if_neg (by omega), by omega, by omega⟩

theorem Fields.zero {w : Nat} {s : Sign} (fields : Fields w s 0 0) : Parts w (.zero s) := by
  obtain ⟨rfl, exponent, fraction⟩ := fields
  exact .zero exponent fraction

theorem Fields.infinity {w : Nat} {s : Sign} (fields : Fields w s 2047 0) :
    Parts w (.infinity s) := by
  obtain ⟨rfl, exponent, fraction⟩ := fields
  exact .infinity exponent fraction

theorem Fields.subnormal {w : Nat} {s : Sign} {m : Nat} (fields : Fields w s 0 m) (pos : 0 < m) :
    Parts w (.finite s m (-1074) pos) := by
  obtain ⟨rfl, exponent, rfl⟩ := fields
  exact .subnormal pos exponent

theorem Fields.normal {w : Nat} {s : Sign} {biased fraction m : Nat} {e : Int}
    (fields : Fields w s biased fraction) (pos : 0 < m) (significand : m = fraction + 2 ^ 52)
    (exponent : e = (biased : Int) - 1075) (lower : 0 < biased) (upper : biased < 2047) :
    Parts w (.finite s m e pos) := by
  obtain ⟨rfl, rfl, rfl⟩ := fields
  subst significand exponent
  exact .normal _ pos rfl lower upper

/-- The parts are those of a double: as many significant bits as there is room for, and fewer only
at the least exponent. -/
def Canonical : UnpackedFloat → Prop
  | .finite _ m e _ => m < 2 ^ 53 ∧ -1074 ≤ e ∧ e ≤ 971 ∧ (2 ^ 52 ≤ m ∨ e = -1074)
  | _ => True

theorem Parts.canonical {w : Nat} {f : UnpackedFloat} (parts : Parts w f) : Canonical f := by
  cases parts with
  | infinity | notANumber | zero => trivial
  | subnormal pos _ => exact ⟨by omega, Int.le_refl _, by decide, .inr rfl⟩
  | normal biased pos _ lower upper => exact ⟨by omega, by omega, by omega, .inl (by omega)⟩

/-- Canonical parts are the parts of the word they are put together to. -/
theorem parts_pack {f : UnpackedFloat} (canonical : Canonical f) :
    Parts (UnpackedFloat.pack .binary64 f).toNat f := by
  cases f with
  | notANumber => exact .notANumber rfl (by decide)
  | infinity s => exact (fields_packComponents s (-1#11) 0).infinity
  | zero s => exact (fields_packComponents s 0 0).zero
  | finite s m e pos =>
    obtain ⟨bound, least, greatest, full⟩ := canonical
    have room : ¬ 2 ^ 11 ≤ (e + 1023 + 52).toNat + 1 := by omega
    by_cases normal : 2 ^ 52 ≤ m
    · have bits : m.log2 + 1 = 53 := by
        rw [(Nat.log2_eq_iff (by omega)).mpr ⟨normal, bound⟩]
      have packed : UnpackedFloat.pack .binary64 (.finite s m e pos) =
          packComponents .binary64 s (BitVec.ofNat 11 (e + 1023 + 52).toNat) (BitVec.ofNat 52 m) :=
        (if_neg room).trans (if_pos bits)
      have fields := fields_packComponents s (BitVec.ofNat 11 (e + 1023 + 52).toNat)
        (BitVec.ofNat 52 m)
      rw [BitVec.toNat_ofNat, BitVec.toNat_ofNat] at fields
      rw [packed]
      exact fields.normal pos (by omega) (by omega) (by omega) (by omega)
    · have bits : m.log2 + 1 ≠ 53 := by
        have := (Nat.log2_lt (k := 52) (by omega : m ≠ 0)).mpr (by omega)
        omega
      have packed : UnpackedFloat.pack .binary64 (.finite s m e pos) =
          packComponents .binary64 s 0 (BitVec.ofNat 52 m) :=
        (if_neg room).trans (if_neg bits)
      have fields := fields_packComponents s 0 (BitVec.ofNat 52 m)
      rw [BitVec.toNat_ofNat, Nat.mod_eq_of_lt (by omega)] at fields
      obtain rfl : e = -1074 := by omega
      rw [packed]
      exact fields.subnormal pos

/-- Taking apart undoes putting together. -/
theorem unpack_pack {f : UnpackedFloat} (canonical : Canonical f) :
    UnpackedFloat.unpack .binary64 (UnpackedFloat.pack .binary64 f) = f :=
  (unpack_parts _).unique (parts_pack canonical)

/-! ## The parts of a double -/

/-- The parts of a double. -/
def parts (x : Float) : UnpackedFloat := x.toModel.unpack

theorem parts_toBits (x : Float) : Parts x.toBits.toNat (parts x) := unpack_parts _

theorem parts_canonical (x : Float) : Canonical (parts x) := (parts_toBits x).canonical

theorem parts_ofBits {w : Nat} (bound : w < 2 ^ 64) {f : UnpackedFloat} (given : Parts w f) :
    parts (Float.ofBits (UInt64.ofNat w)) = f := by
  have word : (UInt64.ofNat w).toBitVec.toNat = w := by
    rw [UInt64.toNat_toBitVec, UInt64.toNat_ofNat', Nat.mod_eq_of_lt bound]
  have taken := unpack_parts (UInt64.ofNat w).toBitVec
  refine (unpack_pack taken.canonical).trans ?_
  rw [word] at taken
  exact taken.unique given

theorem parts_neg (x : Float) : parts (-x) = (parts x).neg := by
  refine unpack_pack ?_
  have canonical := parts_canonical x
  unfold parts at canonical
  cases taken : x.toModel.unpack with
  | notANumber | infinity | zero => trivial
  | finite s m e pos =>
    rw [taken] at canonical
    exact canonical

theorem parts_div {x y : Float}
    (canonical : Canonical (UnpackedFloat.div .binary64 (parts x) (parts y))) :
    parts (x / y) = UnpackedFloat.div .binary64 (parts x) (parts y) := unpack_pack canonical

theorem le_iff_parts {x y : Float} : x ≤ y ↔ (parts x).le (parts y) = true := decide_eq_true_iff

theorem gt_zero_iff_parts {x : Float} : x > 0.0 ↔ (zero .positive).lt (parts x) = true :=
  decide_eq_true_iff

/-- The whole number that parts stand for, if they stand for one. -/
def wholeOf : UnpackedFloat → Option Int
  | .zero _ => some 0
  | .finite s m e _ =>
    if m % 2 ^ (-e).toNat = 0 then some (s.apply (m / 2 ^ (-e).toNat * 2 ^ e.toNat : Nat)) else none
  | _ => none

/-- A double is finite by its bits exactly when its parts are. -/
theorem finite_eq (x : Float) : finite x = (parts x).isFinite := by
  have taken := parts_toBits x
  unfold finite
  generalize parts x = f at taken
  generalize x.toBits.toNat = w at taken
  cases taken with
  | infinity exponent | notANumber exponent =>
    exact bne_eq_false_iff_eq.mpr exponent
  | zero exponent | subnormal _ exponent =>
    exact bne_iff_ne.mpr fun ones => by cases exponent.symm.trans ones
  | normal biased _ exponent _ upper =>
    exact bne_iff_ne.mpr fun ones => by
      have := exponent.symm.trans ones
      omega

/-- A double is no number by its bits exactly when its parts are none. -/
theorem notANumber_eq (x : Float) : notANumber x = (parts x).isNaN := by
  have taken := parts_toBits x
  unfold notANumber
  rw [finite_eq]
  generalize parts x = f at taken
  generalize x.toBits.toNat = w at taken
  cases taken with
  | infinity _ fraction => exact bne_eq_false_iff_eq.mpr fraction
  | notANumber _ fraction => exact bne_iff_ne.mpr fraction
  | zero | subnormal | normal => rfl

theorem signOf_apply (x : Float) (n : Int) :
    (signOf x.toBits.toNat).apply n = if signed x then -n else n := by
  unfold signOf
  by_cases negative : x.toBits.toNat / 2 ^ 63 = 1
  · rw [if_pos negative]
    exact (if_pos (beq_iff_eq.mpr negative)).symm
  · rw [if_neg negative]
    exact (if_neg (mt beq_iff_eq.mp negative)).symm

theorem binary_of_zero {x : Float} {s : Sign} (taken : parts x = .zero s) :
    binary x = ⟨0, -1074⟩ := by
  have fields := parts_toBits x
  rw [taken] at fields
  cases fields with
  | zero exponent fraction =>
    refine (if_pos exponent).trans ?_
    rw [Binary.mk.injEq]
    exact ⟨fraction, rfl⟩

/-- An infinity is read as the power of two that would follow the largest double. -/
theorem binary_of_infinity {x : Float} {s : Sign} (taken : parts x = .infinity s) :
    binary x = ⟨2 ^ 52, 972⟩ := by
  have fields := parts_toBits x
  rw [taken] at fields
  cases fields with
  | infinity exponent fraction =>
    refine (if_neg ?_).trans ?_
    · exact fun zero => by
        have := exponent.symm.trans zero
        omega
    · rw [Binary.mk.injEq]
      exact ⟨congrArg (· + 2 ^ 52) fraction, congrArg (fun n : Nat => (n : Int) - 1075) exponent⟩

/-- A finite double is read as its significand and its exponent, under the sign that its texts start
with. -/
theorem binary_of_finite {x : Float} {s : Sign} {m : Nat} {e : Int} {pos : 0 < m}
    (taken : parts x = .finite s m e pos) :
    binary x = ⟨m, e⟩ ∧ ∀ n, s.apply n = if signed x then -n else n := by
  have fields := parts_toBits x
  rw [taken] at fields
  cases fields with
  | subnormal _ exponent => exact ⟨if_pos exponent, signOf_apply x⟩
  | normal biased _ exponent lower =>
    refine ⟨(if_neg ?_).trans ?_, signOf_apply x⟩
    · exact fun zero => by
        have := exponent.symm.trans zero
        omega
    · rw [Binary.mk.injEq]
      exact ⟨rfl, congrArg (fun n : Nat => (n : Int) - 1075) exponent⟩

/-- A double is the whole number that its parts stand for. -/
theorem whole?_eq (x : Float) : whole? x = wholeOf (parts x) := by
  unfold whole?
  rw [finite_eq]
  cases taken : parts x with
  | infinity | notANumber => rfl
  | zero s =>
    simp only [UnpackedFloat.isFinite, if_true, binary_of_zero taken, wholeOf]
    simp
  | finite s m e pos =>
    obtain ⟨fields, sign⟩ := binary_of_finite taken
    simp only [UnpackedFloat.isFinite, if_true, fields, wholeOf, sign]
    rfl

/-! ## Equal doubles -/

/-- What it means for parts to stand for a whole number other than zero. -/
structure Weighs (s : Sign) (m : Nat) (e i : Int) : Prop where
  sign : s.apply i.natAbs = i
  full : 2 ^ 52 ≤ m
  weight : m * 2 ^ e.toNat = i.natAbs * 2 ^ (-e).toNat

/-- The whole number that is read off parts is the one that they stand for. -/
theorem weighs_of_wholeOf {s : Sign} {m : Nat} {e i : Int} {pos : 0 < m}
    (canonical : Canonical (.finite s m e pos)) (whole : wholeOf (.finite s m e pos) = some i) :
    Weighs s m e i := by
  obtain ⟨bound, -, -, full⟩ := canonical
  obtain ⟨divides, value⟩ := Option.ite_none_right_eq_some.mp whole
  have dvd : 2 ^ (-e).toNat ∣ m := Nat.dvd_of_mod_eq_zero divides
  have magnitude : i.natAbs = m / 2 ^ (-e).toNat * 2 ^ e.toNat := by
    rw [← Option.some.inj value]
    cases s with
    | negative => exact (Int.natAbs_neg _).trans (Int.natAbs_natCast _)
    | positive => exact Int.natAbs_natCast _
  refine ⟨?_, ?_, ?_⟩
  · rw [magnitude]
    exact Option.some.inj value
  · rcases full with full | rfl
    · exact full
    · have large : 2 ^ 53 ≤ m :=
        Nat.le_trans (Nat.pow_le_pow_right (by decide) (by decide)) (Nat.le_of_dvd pos dvd)
      omega
  · rw [magnitude, Nat.mul_right_comm, Nat.div_mul_cancel dvd]

/-- Full significands of one weight are the same. -/
theorem eq_of_weights {m n : Nat} {e k : Int} {w : Nat} (mBound : m < 2 ^ 53)
    (nFull : 2 ^ 52 ≤ n) (mWeight : m * 2 ^ e.toNat = w * 2 ^ (-e).toNat)
    (nWeight : n * 2 ^ k.toNat = w * 2 ^ (-k).toNat) (order : e ≤ k) : m = n ∧ e = k := by
  have shifted : m = n * 2 ^ (k - e).toNat := by
    refine Nat.eq_of_mul_eq_mul_right (Nat.two_pow_pos (e.toNat + (-k).toNat)) ?_
    calc m * 2 ^ (e.toNat + (-k).toNat)
        = m * 2 ^ e.toNat * 2 ^ (-k).toNat := by rw [Nat.pow_add, Nat.mul_assoc]
      _ = w * 2 ^ (-k).toNat * 2 ^ (-e).toNat := by rw [mWeight, Nat.mul_right_comm]
      _ = n * 2 ^ (k.toNat + (-e).toNat) := by rw [← nWeight, Nat.pow_add, Nat.mul_assoc]
      _ = n * 2 ^ ((k - e).toNat + (e.toNat + (-k).toNat)) := by
        congr 2
        omega
      _ = n * 2 ^ (k - e).toNat * 2 ^ (e.toNat + (-k).toNat) := by
        rw [Nat.pow_add, Nat.mul_assoc]
  have level : (k - e).toNat = 0 := by
    rcases Nat.eq_zero_or_pos (k - e).toNat with zero | raised
    · exact zero
    · have double : 2 ^ 1 ≤ 2 ^ (k - e).toNat := Nat.pow_le_pow_right (by decide) raised
      have large : n * 2 ^ 1 ≤ n * 2 ^ (k - e).toNat := Nat.mul_le_mul_left n double
      omega
  rw [level, Nat.pow_zero, Nat.mul_one] at shifted
  exact ⟨shifted, by omega⟩

theorem sign_eq_of_apply {s t : Sign} {n : Nat} (pos : 0 < n) (same : s.apply n = t.apply n) :
    s = t := by
  cases s <;> cases t <;> simp only [Sign.apply] at same <;> first | rfl | omega

theorem Weighs.pos {s : Sign} {m : Nat} {e i : Int} (weighs : Weighs s m e i) :
    0 < i.natAbs := by
  refine Nat.pos_of_ne_zero fun zero => ?_
  have weight := weighs.weight
  have full := weighs.full
  rw [zero, Nat.zero_mul] at weight
  have := Nat.mul_pos (by omega : 0 < m) (Nat.two_pow_pos e.toNat)
  omega

/-- Parts of doubles that stand for one whole number are the same, but for the sign of zero. -/
theorem eq_of_wholeOf {f g : UnpackedFloat} (fCanonical : Canonical f) (gCanonical : Canonical g)
    {i : Int} (fWhole : wholeOf f = some i) (gWhole : wholeOf g = some i) :
    f = g ∨ ∃ s t, f = .zero s ∧ g = .zero t := by
  cases f with
  | notANumber | infinity => cases fWhole
  | zero s =>
    cases g with
    | notANumber | infinity => cases gWhole
    | zero t => exact .inr ⟨s, t, rfl, rfl⟩
    | finite t n k pos =>
      cases fWhole
      exact absurd (weighs_of_wholeOf gCanonical gWhole).pos (Nat.lt_irrefl 0)
  | finite s m e pos =>
    have weighs := weighs_of_wholeOf fCanonical fWhole
    cases g with
    | notANumber | infinity => cases gWhole
    | zero =>
      cases gWhole
      exact absurd weighs.pos (Nat.lt_irrefl 0)
    | finite t n k =>
      have weighs' := weighs_of_wholeOf gCanonical gWhole
      have sign := sign_eq_of_apply weighs.pos (weighs.sign.trans weighs'.sign.symm)
      have fields : m = n ∧ e = k := by
        rcases Int.le_total e k with order | order
        · exact eq_of_weights fCanonical.1 weighs'.full weighs.weight weighs'.weight order
        · obtain ⟨rfl, rfl⟩ :=
            eq_of_weights gCanonical.1 weighs.full weighs'.weight weighs.weight order
          exact ⟨rfl, rfl⟩
      obtain ⟨rfl, rfl⟩ := fields
      subst sign
      exact .inl rfl

/-- Equal doubles are numbers with the same parts, but for the sign of zero. -/
theorem beq_iff {x y : Float} : (x == y) = true ↔
    parts x ≠ .notANumber ∧ parts y ≠ .notANumber ∧
      (parts x = parts y ∨ ∃ s t, parts x = .zero s ∧ parts y = .zero t) := by
  refine (beq_iff_ne_notANumber_and_eq (parts x) (parts y)).trans ?_
  refine and_congr_right fun _ => and_congr_right fun _ => ?_
  constructor
  · rintro (same | ⟨first, second⟩ | ⟨first, second⟩)
    · exact .inl same
    · exact .inr ⟨_, _, first, second⟩
    · exact .inr ⟨_, _, first, second⟩
  · rintro (same | ⟨s, t, first, second⟩)
    · exact .inl same
    · rw [first, second]
      cases s <;> cases t <;> simp

/-- A double that is a number equals itself. -/
theorem beq_self {x : Float} (number : notANumber x = false) : (x == x) = true := by
  have proper : parts x ≠ .notANumber := by
    intro none
    rw [notANumber_eq, none] at number
    cases number
  exact beq_iff.mpr ⟨proper, proper, .inl rfl⟩

/-- Equal doubles are the same whole number, or none of them is one. -/
theorem whole?_eq_of_beq {x y : Float} (equal : (x == y) = true) : whole? x = whole? y := by
  rw [whole?_eq, whole?_eq]
  obtain ⟨-, -, same | ⟨s, t, first, second⟩⟩ := beq_iff.mp equal
  · rw [same]
  · rw [first, second]
    rfl

/-- Doubles that are the same whole number are equal. -/
theorem beq_of_whole? {x y : Float} {i : Int} (first : whole? x = some i)
    (second : whole? y = some i) : (x == y) = true := by
  have proper : ∀ {z}, whole? z = some i → parts z ≠ .notANumber := by
    intro z whole none
    rw [whole?_eq, none] at whole
    cases whole
  refine beq_iff.mpr ⟨proper first, proper second, ?_⟩
  rw [whole?_eq] at first second
  exact eq_of_wholeOf (parts_canonical x) (parts_canonical y) first second

end CollectionRunner.Number
