import CollectionRunner.Proofs.Number.PlaceValue
import CollectionRunner.Proofs.Script.Exchange

/-!
# Texts of numbers tell numbers apart

The text of a number is a sign and then zero, infinity, or digits that stand for a number among the
reals that round to the double (`shows_numberText`).  Main statement: `numberText_eq_iff`, two
doubles that are numbers have one text exactly when they are equal.
-/

namespace CollectionRunner.ScriptValue

open Float.Model UnpackedFloat Number

/-! ## What a text shows -/

/-- The sign before the digits. -/
def signMark : Sign → List Char
  | .negative => ['-']
  | .positive => []

/-- A text shows a double, given by its parts. -/
inductive Shows : UnpackedFloat → List Char → Prop
  | zero (s : Sign) : Shows (.zero s) ['0']
  | infinity (s : Sign) : Shows (.infinity s) (signMark s ++ "Infinity".toList)
  | finite (s : Sign) {m : ℕ} {e : ℤ} {pos : 0 < m} {digits : List Char} {q : ℚ} :
    Spells digits q → Binary.Around ⟨m, e⟩ q →
    Shows (.finite s m e pos) (signMark s ++ digits)

/-- The mark of a sign is what the text of a double with that sign starts with. -/
theorem toList_sign {x : Float} {s : Sign}
    (sign : ∀ n, s.apply n = if signed x then -n else n) :
    (if signed x then "-" else "").toList = signMark s := by
  have one := sign 1
  cases s with
  | negative =>
    split at one
    · rename_i negative
      rw [if_pos negative]
      rfl
    · cases one
  | positive =>
    split at one
    · cases one
    · rename_i positive
      rw [if_neg positive]
      rfl

/-- The text of an integer is its sign and the digits of its absolute value. -/
theorem toList_toString {s : Sign} {i : ℤ} (sign : s.apply i.natAbs = i) (pos : 0 < i.natAbs) :
    (toString i).toList = signMark s ++ i.natAbs.repr.toList := by
  cases i with
  | ofNat n =>
    cases s with
    | negative =>
      simp only [Sign.apply, Int.ofNat_eq_natCast, Int.natAbs_natCast] at sign pos
      omega
    | positive => rfl
  | negSucc n =>
    cases s with
    | negative =>
      have text : toString (Int.negSucc n) = "-" ++ (n + 1).repr := rfl
      rw [text, String.toList_append]
      rfl
    | positive =>
      simp only [Sign.apply] at sign
      omega

/-- Parts that stand for a whole number are its sign and around its magnitude. -/
theorem around_of_weighs {s : Sign} {m : ℕ} {e i : ℤ} (weighs : Weighs s m e i) :
    Binary.Around ⟨m, e⟩ i.natAbs := by
  have value : Binary.value ⟨m, e⟩ = i.natAbs := by
    have scale : (0 : ℚ) < twoTo (-e).toNat := by exact_mod_cast twoTo_pos _
    have weight : (m : ℚ) * twoTo e.toNat = i.natAbs * twoTo (-e).toNat := by
      exact_mod_cast weighs.weight
    rw [Binary.value, two_zpow, mul_div_assoc', weight, mul_div_cancel_right₀ _ scale.ne']
  rw [← value]
  exact Binary.value_around _

section Kinds

variable {x : Float} {s : Sign} {m : ℕ} {e : ℤ} {pos : 0 < m}

theorem numberText_of_zero (taken : parts x = .zero s) : numberText x = "0" := by
  have whole : integral? x = some 0 :=
    integral?_eq_some_iff.mpr ⟨by rw [whole?_eq, taken]; rfl, by decide⟩
  rw [numberText, whole]
  rfl

theorem numberText_of_infinity (taken : parts x = .infinity s) :
    numberText x = (if signed x then "-" else "") ++ "Infinity" := by
  have notWhole : integral? x = none := by rw [integral?, whole?_eq, taken]; rfl
  have number : notANumber x = false := by rw [notANumber_eq, taken]; rfl
  have unbounded : Number.finite x = false := by rw [finite_eq, taken]; rfl
  rw [numberText, notWhole, number, unbounded]
  cases signed x <;> rfl

theorem numberText_of_fraction (taken : parts x = .finite s m e pos)
    (notWhole : integral? x = none) :
    numberText x = (if signed x then "-" else "") ++ (shortest x).positional := by
  have number : notANumber x = false := by rw [notANumber_eq, taken]; rfl
  have bounded : Number.finite x = true := by rw [finite_eq, taken]; rfl
  rw [numberText, notWhole, number, bounded]
  exact plainText_of_finite taken

theorem shows_integer {i : ℤ} (taken : parts x = .finite s m e pos)
    (integral : integral? x = some i) : Shows (.finite s m e pos) (toString i).toList := by
  obtain ⟨whole, -⟩ := integral?_eq_some_iff.mp integral
  have canonical := parts_canonical x
  rw [whole?_eq, taken] at whole
  rw [taken] at canonical
  have weighs := weighs_of_wholeOf canonical whole
  rw [toList_toString weighs.sign weighs.pos]
  exact .finite s (spells_repr _) (around_of_weighs weighs)

theorem sign_of_infinity (taken : parts x = .infinity s) (n : ℤ) :
    s.apply n = if signed x then -n else n := by
  have fields := parts_toBits x
  rw [taken] at fields
  cases fields
  exact signOf_apply x n

end Kinds

/-- The text of a double that is a number shows the double. -/
theorem shows_numberText {x : Float} (number : notANumber x = false) :
    Shows (parts x) (numberText x).toList := by
  cases taken : parts x with
  | notANumber =>
    rw [notANumber_eq, taken] at number
    cases number
  | zero s =>
    rw [numberText_of_zero taken]
    exact .zero s
  | infinity s =>
    rw [numberText_of_infinity taken, String.toList_append, toList_sign (sign_of_infinity taken)]
    exact .infinity s
  | finite s m e pos =>
    cases integral : integral? x with
    | some i =>
      rw [numberText, integral]
      exact shows_integer taken integral
    | none =>
      rw [numberText_of_fraction taken integral, String.toList_append,
        toList_sign (binary_of_finite taken).2]
      exact .finite s (Decimal.positional_spells _) (shortest_around taken)

namespace Shows

variable {f g : UnpackedFloat} {t : List Char}

/-- The text has a first character, by which it is known for the text of a number. -/
theorem head (shows : Shows f t) :
    ∃ c rest, t = c :: rest ∧ (c.isDigit ∨ c = '-' ∨ c = 'I') := by
  cases shows with
  | zero => exact ⟨'0', [], rfl, .inl rfl⟩
  | infinity s =>
    cases s with
    | negative => exact ⟨'-', _, rfl, .inr (.inl rfl)⟩
    | positive => exact ⟨'I', _, rfl, .inr (.inr rfl)⟩
  | finite s spells =>
    cases s with
    | negative => exact ⟨'-', _, rfl, .inr (.inl rfl)⟩
    | positive =>
      obtain ⟨c, rest, rfl, digit⟩ := spells.head
      exact ⟨c, rest, rfl, .inl digit⟩

/-- The text has none of the characters that stand between values. -/
theorem no_separator (shows : Shows f t) : ∀ c ∈ t, c ≠ ',' ∧ c ≠ ' ' := by
  have mark (s : Sign) : ∀ c ∈ signMark s, c ≠ ',' ∧ c ≠ ' ' := by
    cases s <;> simp [signMark]
  cases shows with
  | zero => simp
  | infinity s => exact List.forall_mem_append.mpr ⟨mark s, by simp⟩
  | finite s spells =>
    refine List.forall_mem_append.mpr ⟨mark s, fun c member => ?_⟩
    constructor
    · rintro rfl
      exact absurd (spells.plain _ member) (by decide)
    · rintro rfl
      exact absurd (spells.plain _ member) (by decide)

end Shows

/-! ## What tells doubles apart -/

section Apart

variable {s s' : Sign} {cs ds : List Char} {q : ℚ}

/-- A text splits in one way into the mark of a sign and the rest, as the rest starts with no such
mark. -/
theorem signMark_append_inj (first : cs.head? ≠ some '-') (second : ds.head? ≠ some '-')
    (same : signMark s ++ cs = signMark s' ++ ds) : s = s' ∧ cs = ds := by
  cases s with
  | negative =>
    cases s' with
    | negative => exact ⟨rfl, List.tail_eq_of_cons_eq same⟩
    | positive =>
      have same : '-' :: cs = ds := same
      exact absurd (congrArg List.head? same).symm second
  | positive =>
    cases s' with
    | negative =>
      have same : cs = '-' :: ds := same
      exact absurd (congrArg List.head? same) first
    | positive => exact ⟨rfl, same⟩

theorem head?_of_spells {c : Char} (spells : Spells cs q) (letter : c.isDigit = false) :
    cs.head? ≠ some c := by
  obtain ⟨d, rest, rfl, digit⟩ := spells.head
  rintro same
  cases same
  rw [digit] at letter
  cases letter

theorem zero_ne_infinity : ['0'] ≠ signMark s ++ "Infinity".toList := by
  cases s <;> simp [signMark]

theorem infinity_ne_digits (spells : Spells cs q) :
    signMark s ++ "Infinity".toList ≠ signMark s' ++ cs := by
  intro same
  obtain ⟨-, word⟩ := signMark_append_inj (by simp) (head?_of_spells spells rfl) same
  exact head?_of_spells spells (c := 'I') rfl (congrArg List.head? word).symm

theorem zero_ne_digits {b : Binary} (full : b.Full) (spells : Spells cs q) (around : b.Around q) :
    ['0'] ≠ signMark s ++ cs := by
  intro same
  obtain ⟨-, zero⟩ :=
    signMark_append_inj (s := .positive) (by simp) (head?_of_spells spells rfl) same
  have nothing : q = 0 := by
    rw [← spells.value, ← zero, placeValue_of_digits (by simp)]
    simp [digitsValue]
  exact absurd (around.pos full) (by rw [nothing]; exact lt_irrefl 0)

end Apart

/-- A text shows one double, but for the sign of zero. -/
theorem Shows.unique {x y : Float} {t u : List Char} (first : Shows (parts x) t)
    (second : Shows (parts y) u) (same : t = u) :
    parts x = parts y ∨ ∃ s s', parts x = .zero s ∧ parts y = .zero s' := by
  generalize xTaken : parts x = f at first
  generalize yTaken : parts y = g at second
  cases first with
  | zero s =>
    cases second with
    | zero s' => exact .inr ⟨s, s', rfl, rfl⟩
    | infinity => exact absurd same zero_ne_infinity
    | finite _ spells around =>
      exact absurd same (zero_ne_digits (Binary.full_of_parts yTaken) spells around)
  | infinity s =>
    cases second with
    | zero => exact absurd same.symm zero_ne_infinity
    | infinity s' =>
      obtain ⟨rfl, -⟩ := signMark_append_inj (by simp) (by simp) same
      exact .inl rfl
    | finite _ spells => exact absurd same (infinity_ne_digits spells)
  | finite s spells around =>
    cases second with
    | zero => exact absurd same.symm (zero_ne_digits (Binary.full_of_parts xTaken) spells around)
    | infinity => exact absurd same.symm (infinity_ne_digits spells)
    | finite s' spells' around' =>
      obtain ⟨rfl, rfl⟩ := signMark_append_inj (head?_of_spells spells rfl)
        (head?_of_spells spells' rfl) same
      rw [← spells.value] at around
      rw [← spells'.value] at around'
      have fields := around.unique (Binary.full_of_parts xTaken) (Binary.full_of_parts yTaken)
        around'
      rw [Binary.mk.injEq] at fields
      obtain ⟨rfl, rfl⟩ := fields
      exact .inl rfl

/-- Equal numbers have one text, zero also with a sign. -/
theorem numberText_of_beq {x y : Float} (equal : (x == y) = true) :
    numberText x = numberText y := by
  obtain ⟨-, -, rfl | ⟨rfl, rfl⟩ | ⟨rfl, rfl⟩⟩ := Float.beq_iff_ne_nan_and_eq.mp equal
  · rfl
  · decide +kernel
  · decide +kernel

/-- Numbers have one text exactly when they are equal. -/
theorem numberText_eq_iff {x y : Float} (xNumber : notANumber x = false)
    (yNumber : notANumber y = false) : numberText x = numberText y ↔ (x == y) = true := by
  refine ⟨fun same => ?_, numberText_of_beq⟩
  have proper {z : Float} (number : notANumber z = false) : parts z ≠ .notANumber := by
    intro taken
    rw [notANumber_eq, taken] at number
    cases number
  exact beq_iff.mpr ⟨proper xNumber, proper yNumber,
    (shows_numberText xNumber).unique (shows_numberText yNumber) (congrArg String.toList same)⟩

end CollectionRunner.ScriptValue
