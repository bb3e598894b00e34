import CollectionRunner.Proofs.Env.Scan

/-!
# Escapes

Any text can be written so that an expansion gives it back: `Placeholder.escape` puts a backslash
before each pair of opening braces.  The pieces of the text written so are literals and escapes,
none of them a placeholder (`exists_cut_escape`), so the variables do not count.  Main statement:
`Variables.expand_escaped`.
-/

namespace CollectionRunner

namespace Placeholder

/-- A text with a backslash before each pair of opening braces. The pairs are found from the left
on, and no two of them overlap. -/
def escape : List Char → List Char
  | a :: b :: rest =>
    if a = opening ∧ b = opening then '\\' :: opening :: opening :: escape rest
    else a :: escape (b :: rest)
  | cs => cs

theorem escape_cons {a : Char} {rest : List Char}
    (apart : ¬ (a = opening ∧ rest.head? = some opening)) :
    escape (a :: rest) = a :: escape rest := by
  cases rest with
  | nil => rfl
  | cons b tail =>
    rw [List.head?_cons, Option.some.injEq] at apart
    rw [escape, if_neg apart]

theorem escape_of_unopened {cs : List Char} (unopened : ¬ [opening, opening] <:+: cs) :
    escape cs = cs := by
  induction cs with
  | nil => rfl
  | cons a rest ih =>
    rw [pair_infix_cons, not_or] at unopened
    rw [escape_cons unopened.1, ih unopened.2]

/-- Escaping puts a backslash before the first pair and goes on behind it. -/
theorem escape_of_firstPair {cs before after : List Char}
    (pair : FirstPair opening cs before after) :
    escape cs = before ++ '\\' :: opening :: opening :: escape after := by
  induction before generalizing cs with
  | nil =>
    rw [firstPair_nil.mp pair, escape, if_pos ⟨rfl, rfl⟩]
    rfl
  | cons b inner ih =>
    cases cs with
    | nil => cases pair.split
    | cons a rest =>
      obtain ⟨rfl, apart, later⟩ := firstPair_cons.mp pair
      rw [escape_cons apart, ih later, List.cons_append]

/-- A backslash after a text makes no pair of braces. -/
theorem pair_not_infix_concat {cs : List Char} (unopened : ¬ [opening, opening] <:+: cs) :
    ¬ [opening, opening] <:+: cs ++ ['\\', opening] := by
  induction cs with
  | nil => decide
  | cons a rest ih =>
    rw [pair_infix_cons, not_or] at unopened
    rw [List.cons_append, pair_infix_cons, not_or]
    refine ⟨fun here => unopened.1 ⟨here.1, ?_⟩, ih unopened.2⟩
    cases rest with
    | nil => cases here.2
    | cons b tail => exact here.2

/-- The first pair of a text is the first of the escaped text too, behind its backslash. -/
theorem FirstPair.escape {cs before after : List Char} (pair : FirstPair opening cs before after) :
    FirstPair opening (escape cs) (before ++ ['\\']) (escape after) := by
  have unopened : ¬ [opening, opening] <:+: before :=
    fun inside => pair.first (inside.trans (List.prefix_append before [opening]).isInfix)
  refine ⟨?_, ?_⟩
  · rw [escape_of_firstPair pair, List.append_assoc]
    rfl
  · rw [List.append_assoc]
    exact pair_not_infix_concat unopened

/-- An escaped text has no placeholders, and its pieces are shown as the text was. -/
theorem exists_cut_escape (cs : List Char) : ∃ pieces, Cut (escape cs) pieces ∧
    (∀ inner, .placeholder inner ∉ pieces) ∧
    ∀ value?, pieces.flatMap (Piece.shown value?) = cs := by
  -- The text after a pair is shorter than the text, and the next pair is looked for in it.
  induction length : cs.length using Nat.strong_induction_on generalizing cs with
  | _ n ih =>
    cases opened : splitPair opening cs with
    | none =>
      have unopened := splitPair_eq_none_iff.mp opened
      rw [escape_of_unopened unopened]
      exact ⟨_, .plain unopened, by simp, fun _ => List.flatMap_singleton _ _⟩
    | some parts =>
      obtain ⟨before, after⟩ := parts
      have pair := splitPair_eq_some_iff.mp opened
      have shorter := splitPair_length opened
      obtain ⟨pieces, cut, free, shown⟩ := ih after.length (by omega) after rfl
      refine ⟨_, .escaped pair.escape cut, ?_, fun value? => ?_⟩
      · intro inner member
        simp [free] at member
      · rw [pair.split, List.flatMap_cons, List.flatMap_cons, shown]
        rfl

/-- An escaped text, as texts are given. -/
def escaped (text : String) : String := String.ofList (escape text.toList)

end Placeholder

/-- Every text can be sent as it is: escaped, whatever the variables are, and unescaped if it has no
pair of opening braces. -/
theorem Variables.expand_escaped (text : String) :
    (∃ pieces, Placeholder.Expands (Placeholder.escaped text) pieces ∧
      ∀ inner, .placeholder inner ∉ pieces) ∧
    (∀ vars : Variables, vars.expand (Placeholder.escaped text) = text) ∧
    (¬ [Placeholder.opening, Placeholder.opening] <:+: text.toList →
      ∀ vars : Variables, vars.expand text = text) := by
  obtain ⟨pieces, cut, free, shown⟩ := Placeholder.exists_cut_escape text.toList
  rw [← String.toList_ofList (l := Placeholder.escape text.toList)] at cut
  have expands := cut.expands
  refine ⟨⟨pieces, expands, free⟩, fun vars => ?_, fun unopened vars => ?_⟩
  · exact (expands.shown vars).trans (by rw [shown, String.ofList_toList])
  · have whole := Placeholder.expandChars_of_unopened
      (Placeholder.splitPair_eq_none_iff.mpr unopened) vars
    rw [expand, whole, String.ofList_toList]

/-- A variable that is known, a run of braces with its placeholder in it, and braces that are no
pair. -/
theorem Variables.expand_escaped_of_known :
    let vars := ofList [("a", "1")]
    let braces := "\\\x7b\x7b\x7ba\x7d\x7d\x7d"
    vars.expand "\x7b\x7ba\x7d\x7d" = "1" ∧
      vars.expand (Placeholder.escaped braces) = braces ∧ vars.expand "\x7ba\x7d" = "\x7ba\x7d" :=
  ⟨by decide +kernel, (expand_escaped _).2.1 _, (expand_escaped _).2.2 (by decide) _⟩

end CollectionRunner
