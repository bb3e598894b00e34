import CollectionRunner.Number.Layout

/-!
# Texts of integers and of doubles

Documents write a double so that it is not taken for an integer: its text has a point or an
exponent, however large or whole the number is (`Layout.marked_text`).
-/

namespace CollectionRunner.Number

/-- The text has a mark that no text of an integer has. -/
def Marked (s : String) : Prop := '.' ∈ s.toList ∨ 'e' ∈ s.toList

theorem Marked.append_left {s : String} (marked : Marked s) (t : String) : Marked (s ++ t) := by
  unfold Marked at *
  rw [String.toList_append, List.mem_append, List.mem_append]
  exact marked.imp .inl .inl

theorem Marked.append_right {t : String} (marked : Marked t) (s : String) : Marked (s ++ t) := by
  unfold Marked at *
  rw [String.toList_append, List.mem_append, List.mem_append]
  exact marked.imp .inr .inr

theorem not_marked_repr (n : Nat) : ¬ Marked n.repr := by
  have digits : ∀ c ∈ n.repr.toList, c.isDigit := by
    intro c mem
    rw [Nat.toList_repr] at mem
    exact Nat.isDigit_of_mem_toDigits (by decide) (by decide) mem
  rintro (point | exponent)
  · exact absurd (digits _ point) (by decide)
  · exact absurd (digits _ exponent) (by decide)

/-- No integer has a point or an exponent in its text. -/
theorem not_marked_toString (i : Int) : ¬ Marked (toString i) := by
  cases i with
  | ofNat n => exact not_marked_repr n
  | negSucc n =>
    have text : toString (Int.negSucc n) = "-" ++ (n + 1).repr := rfl
    intro marked
    unfold Marked at marked
    rw [text, String.toList_append, List.mem_append, List.mem_append] at marked
    refine not_marked_repr (n + 1) (marked.imp ?_ ?_)
    all_goals exact fun mem => mem.resolve_left (by decide)

theorem Decimal.marked_positional {d : Decimal} (fraction : d.exponent < 0) :
    Marked d.positional := by
  unfold positional
  rw [if_neg (Int.not_le.mpr fraction)]
  refine .inl ?_
  dsimp only
  split
  · simp
  · simp

theorem Decimal.marked_scientific (d : Decimal) (plus : String) : Marked (d.scientific plus) := by
  have letter : Marked "e" := .inr (by decide)
  exact ((letter.append_right _).append_left _).append_left _

/-- A layout that gives whole numbers a point marks the text of every finite double. -/
theorem Layout.marked_text {l : Layout} (pointed : l.pointed = true) {x : Float}
    (number : notANumber x = false) (bounded : finite x = true) : Marked (l.text x) := by
  unfold text
  rw [number, bounded, pointed, if_neg Bool.false_ne_true, if_pos rfl]
  refine Marked.append_right ?_ _
  split
  · rcases Int.lt_or_le (shortest x).exponent 0 with fraction | whole
    · exact (Decimal.marked_positional fraction).append_left _
    · rw [if_pos (by simpa using whole)]
      exact Marked.append_right (.inl (by decide)) _
  · exact Decimal.marked_scientific _ _

end CollectionRunner.Number
