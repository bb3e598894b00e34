import CollectionRunner.Text.Blank
import Mathlib

/-!
# White space at the ends of a text

Trimming cuts white space off both ends (`trimmed_between`), and nothing of a text that has none of it
(`trimmed_of_solid`).
-/

namespace CollectionRunner.Text

/-- A text is what its trimming leaves, with blanks before and after it. -/
theorem trimmed_between (cs : List Char) :
    ∃ lead trail : List Char, (∀ c ∈ lead, blank c = true) ∧ (∀ c ∈ trail, blank c = true) ∧
      cs = lead ++ (trimmed cs ++ trail) := by
  refine ⟨cs.takeWhile blank, (cs.dropWhile blank).rtakeWhile blank,
    fun c member => List.mem_takeWhile_imp member,
    fun c member => List.mem_rtakeWhile_imp member, ?_⟩
  calc
    cs = cs.takeWhile blank ++ cs.dropWhile blank := List.takeWhile_append_dropWhile.symm
    _ = cs.takeWhile blank ++ (trimmed cs ++ (cs.dropWhile blank).rtakeWhile blank) :=
      congrArg _ List.rdropWhile_append_rtakeWhile.symm

theorem trimmed_of_solid {cs : List Char} (solid : ∀ c ∈ cs, blank c = false) :
    trimmed cs = cs := by
  have kept {ds : List Char} (solid : ∀ c ∈ ds, blank c = false) : ds.dropWhile blank = ds :=
    List.dropWhile_eq_self_iff.mpr fun some => by simp [solid _ (List.getElem_mem some)]
  rw [trimmed, kept solid, kept (fun c member => solid c (List.mem_reverse.mp member)),
    List.reverse_reverse]

end CollectionRunner.Text
