import CollectionRunner.Proofs.Env.Expansion
import Mathlib.Data.List.Infix

/-!
# Pieces of texts

`Cut` says what the pieces of a text are, without a scanner: the first pair of braces opens a
placeholder unless a backslash stands before it, and the next pair of closing braces closes it.  A
text has pieces (`exists_cut`) and no others (`Cut.unique`), the pieces written one after the other
are the text (`Cut.written`), and an expansion shows one piece after the other
(`Cut.expandChars_eq`), so that a value is never looked at again.
-/

namespace CollectionRunner.Placeholder

/-! ## Pairs of braces -/

theorem splitPair_cons (c a : Char) (rest : List Char) :
    splitPair c (a :: rest) =
      if a = c ∧ rest.head? = some c then some ([], rest.drop 1)
      else (splitPair c rest).map fun (before, after) => (a :: before, after) := by
  cases rest with
  | nil => simp [splitPair]
  | cons b tail =>
    rw [splitPair]
    simp only [List.head?_cons, Option.some.injEq, List.drop_succ_cons, List.drop_zero]

theorem pair_infix_cons {c a : Char} {rest : List Char} :
    [c, c] <:+: a :: rest ↔ (a = c ∧ rest.head? = some c) ∨ [c, c] <:+: rest := by
  rw [List.infix_cons_iff, List.cons_prefix_cons, eq_comm (a := c)]
  cases rest with
  | nil => simp
  | cons b tail => simp [List.cons_prefix_cons, eq_comm (a := c)]

/-- The first pair of a character in a text comes after `before`. -/
structure FirstPair (c : Char) (cs before after : List Char) : Prop where
  split : cs = before ++ c :: c :: after
  first : ¬ [c, c] <:+: before ++ [c]

theorem firstPair_nil {c : Char} {cs after : List Char} :
    FirstPair c cs [] after ↔ cs = c :: c :: after :=
  ⟨fun pair => pair.split, fun split => ⟨split, fun pair => by simpa using pair.length_le⟩⟩

/-- The first pair comes after a character if the character does not begin a pair itself. -/
theorem firstPair_cons {c a b : Char} {rest inner after : List Char} :
    FirstPair c (a :: rest) (b :: inner) after ↔
      a = b ∧ ¬ (a = c ∧ rest.head? = some c) ∧ FirstPair c rest inner after := by
  -- Whether a pair starts at the first character depends on the one after it only, and that is the
  -- same in the whole text and in what comes before the pair.
  have heads : (inner ++ c :: c :: after).head? = (inner ++ [c]).head? := by
    cases inner <;> rfl
  constructor
  · rintro ⟨split, first⟩
    rw [List.cons_append, List.cons.injEq] at split
    obtain ⟨rfl, rfl⟩ := split
    rw [List.cons_append, pair_infix_cons, not_or] at first
    exact ⟨rfl, by rw [heads]; exact first.1, rfl, first.2⟩
  · rintro ⟨rfl, apart, rfl, first⟩
    rw [heads] at apart
    refine ⟨rfl, ?_⟩
    rw [List.cons_append, pair_infix_cons]
    exact not_or.mpr ⟨apart, first⟩

/-- A text does not split at a pair only when the pair is nowhere in it. -/
theorem splitPair_eq_none_iff {c : Char} {cs : List Char} :
    splitPair c cs = none ↔ ¬ [c, c] <:+: cs := by
  induction cs with
  | nil => simp [splitPair]
  | cons a rest ih =>
    rw [splitPair_cons, pair_infix_cons]
    by_cases here : a = c ∧ rest.head? = some c
    · simp [here]
    · rw [if_neg here, Option.map_eq_none_iff, ih]
      simp [here]

/-- Splitting a text at a pair is splitting it at the first. -/
theorem splitPair_eq_some_iff {c : Char} {cs before after : List Char} :
    splitPair c cs = some (before, after) ↔ FirstPair c cs before after := by
  induction cs generalizing before with
  | nil =>
    refine ⟨fun found => by simp [splitPair] at found, fun pair => ?_⟩
    have split := pair.split
    simp at split
  | cons a rest ih =>
    rw [splitPair_cons]
    by_cases here : a = c ∧ rest.head? = some c
    · obtain ⟨tail, rfl⟩ := List.head?_eq_some_iff.mp here.2
      rw [if_pos here]
      cases before with
      | nil => simp [firstPair_nil, here.1]
      | cons b inner => simp [firstPair_cons, here.1]
    · rw [if_neg here]
      cases before with
      | nil =>
        rw [firstPair_nil]
        refine ⟨fun found => by simp at found, fun split => ?_⟩
        obtain ⟨rfl, rfl⟩ := List.cons.inj split
        exact absurd ⟨rfl, rfl⟩ here
      | cons b inner =>
        rw [firstPair_cons, ← ih]
        simp [here, and_comm]

theorem FirstPair.unique {c : Char} {cs before after before' after' : List Char}
    (pair : FirstPair c cs before after) (pair' : FirstPair c cs before' after') :
    before = before' ∧ after = after' := by
  have same := (splitPair_eq_some_iff.mpr pair).symm.trans (splitPair_eq_some_iff.mpr pair')
  simpa using same

theorem FirstPair.infix {c : Char} {cs before after : List Char}
    (pair : FirstPair c cs before after) : [c, c] <:+: cs :=
  ⟨before, after, by rw [pair.split]; simp⟩

/-! ## Keys -/

/-- A letter, an underscore or a dollar sign, and after it letters, digits, underscores, points,
hyphens and dollar signs. -/
def IsKey : List Char → Prop
  | [] => False
  | c :: rest => (c.isAlpha ∨ c = '_' ∨ c = '$') ∧
    ∀ d ∈ rest, d.isAlphanum ∨ d = '_' ∨ d = '.' ∨ d = '-' ∨ d = '$'

theorem validName_iff {cs : List Char} : validName cs = true ↔ IsKey cs := by
  cases cs with
  | nil => simp [validName, IsKey]
  | cons c rest => simp [validName, IsKey, startChar, nameChar, or_assoc]

instance (cs : List Char) : Decidable (IsKey cs) := decidable_of_iff _ validName_iff

/-- The key of a placeholder with what is between its braces, if it is a valid one. -/
def key? (inner : List Char) : Option String :=
  if IsKey (Text.trimmed inner) then some (String.ofList (Text.trimmed inner)) else none

/-! ## Pieces -/

/-- A piece of a text as it is written. -/
inductive Piece
  | literal (cs : List Char)
  /-- A backslash and opening braces. -/
  | escape
  /-- Braces with something between them. -/
  | placeholder (inner : List Char)
  deriving DecidableEq, Repr

/-- What is between braces, with the braces. -/
def braced (inner : List Char) : List Char := [opening, opening] ++ inner ++ [closing, closing]

namespace Piece

/-- A piece as it is written. -/
def written : Piece → List Char
  | literal cs => cs
  | escape => ['\\', opening, opening]
  | placeholder inner => braced inner

/-- A piece as it is shown where keys have values. -/
def shown (value? : String → Option String) : Piece → List Char
  | literal cs => cs
  | escape => [opening, opening]
  | placeholder inner => (((key? inner).bind value?).map String.toList).getD (braced inner)

end Piece

/-- The keys of the placeholders among pieces. -/
def keys (pieces : List Piece) : List String :=
  pieces.filterMap fun
    | .placeholder inner => key? inner
    | _ => none

/-- The pieces of a text, cut at the first pair of opening braces: with a backslash before it the
pair is an escape, without one it opens a placeholder, unless nothing closes it. -/
inductive Cut : List Char → List Piece → Prop
  | plain {cs : List Char} : ¬ [opening, opening] <:+: cs → Cut cs [.literal cs]
  | escaped {cs before after : List Char} {pieces : List Piece} :
    FirstPair opening cs (before ++ ['\\']) after → Cut after pieces →
    Cut cs (.literal before :: .escape :: pieces)
  | unclosed {cs before after : List Char} : FirstPair opening cs before after →
    before.getLast? ≠ some '\\' → ¬ [closing, closing] <:+: after → Cut cs [.literal cs]
  | closed {cs before after inner rest : List Char} {pieces : List Piece} :
    FirstPair opening cs before after → before.getLast? ≠ some '\\' →
    FirstPair closing after inner rest → Cut rest pieces →
    Cut cs (.literal before :: .placeholder inner :: pieces)

/-- Every text has a cut, as the cases in which it falls into segments are those of a cut. -/
theorem exists_cut (cs : List Char) : ∃ pieces, Cut cs pieces := by
  fun_induction segments cs with
  | case1 cs unopened => exact ⟨_, .plain (splitPair_eq_none_iff.mp unopened)⟩
  | case2 cs before after opened _ escaped ih =>
    obtain ⟨pieces, cut⟩ := ih
    have pair := splitPair_eq_some_iff.mp opened
    rw [← List.dropLast_append_getLast? '\\' escaped] at pair
    exact ⟨_, .escaped pair cut⟩
  | case3 cs before after opened _ unescaped unclosed =>
    exact ⟨_, .unclosed (splitPair_eq_some_iff.mp opened) unescaped
      (splitPair_eq_none_iff.mp unclosed)⟩
  | case4 cs before after opened _ unescaped inner rest closed _ ih =>
    obtain ⟨pieces, cut⟩ := ih
    exact ⟨_, .closed (splitPair_eq_some_iff.mp opened) unescaped
      (splitPair_eq_some_iff.mp closed) cut⟩

namespace Cut

/-- A text has one cut only, as each piece ends at the first pair that may end it. -/
theorem unique {cs : List Char} {pieces pieces' : List Piece} (cut : Cut cs pieces)
    (cut' : Cut cs pieces') : pieces = pieces' := by
  -- Two cuts look at the same first pairs, so at each of them they go on in the same way.
  induction cut generalizing pieces' with
  | plain unopened =>
    cases cut' with
    | plain => rfl
    | escaped pair | unclosed pair | closed pair => exact absurd pair.infix unopened
  | @escaped cs before after pieces pair _ ih =>
    cases cut' with
    | plain unopened => exact absurd pair.infix unopened
    | @escaped _ before' after' _ pair' later =>
      obtain ⟨same, rfl⟩ := pair.unique pair'
      rw [List.append_cancel_right same, ih later]
    | unclosed pair' unescaped | closed pair' unescaped =>
      obtain ⟨rfl, -⟩ := pair.unique pair'
      simp at unescaped
  | unclosed pair unescaped unclosed =>
    cases cut' with
    | plain | unclosed => rfl
    | escaped pair' =>
      obtain ⟨rfl, -⟩ := pair.unique pair'
      simp at unescaped
    | closed pair' _ closed =>
      obtain ⟨-, rfl⟩ := pair.unique pair'
      exact absurd closed.infix unclosed
  | closed pair unescaped closed _ ih =>
    cases cut' with
    | plain unopened => exact absurd pair.infix unopened
    | escaped pair' =>
      obtain ⟨rfl, -⟩ := pair.unique pair'
      simp at unescaped
    | unclosed pair' _ unclosed =>
      obtain ⟨-, rfl⟩ := pair.unique pair'
      exact absurd closed.infix unclosed
    | closed pair' _ closed' later =>
      obtain ⟨rfl, rfl⟩ := pair.unique pair'
      obtain ⟨rfl, rfl⟩ := closed.unique closed'
      rw [ih later]

/-- The pieces of a text written one after the other are the text. -/
theorem written {cs : List Char} {pieces : List Piece} (cut : Cut cs pieces) :
    pieces.flatMap Piece.written = cs := by
  induction cut with
  | plain | unclosed => simp [Piece.written]
  | escaped pair _ ih =>
    rw [pair.split]
    simp [Piece.written, ih]
  | closed pair _ closed _ ih =>
    rw [pair.split, closed.split]
    simp [Piece.written, braced, ih]

end Cut

/-- A placeholder shows the variable of its name, or itself if there is none or its name is not
valid. -/
theorem resolve_eq (vars : Variables) (inner : List Char) :
    resolve vars inner = (Piece.placeholder inner).shown vars.get? := by
  simp only [resolve, Piece.shown, key?, braced]
  by_cases valid : IsKey (Text.trimmed inner)
  · have named := validName_iff.mpr valid
    rw [if_pos valid, Option.bind_some]
    cases found : vars.get? (String.ofList (Text.trimmed inner)) with
    | none => rfl
    | some value => simp [named]
  · have unnamed := mt validName_iff.mp valid
    rw [if_neg valid]
    cases found : vars.get? (String.ofList (Text.trimmed inner)) with
    | none => rfl
    | some value => simp [unnamed]

/-- An expansion shows the pieces of its text, one after the other. -/
theorem Cut.expandChars_eq {cs : List Char} {pieces : List Piece} (cut : Cut cs pieces)
    (vars : Variables) : expandChars vars cs = pieces.flatMap (Piece.shown vars.get?) := by
  induction cut with
  | plain unopened =>
    rw [expandChars_of_unopened (splitPair_eq_none_iff.mpr unopened)]
    simp [Piece.shown]
  | escaped pair _ ih =>
    rw [expandChars_of_escaped (splitPair_eq_some_iff.mpr pair) (by simp), ih]
    simp [Piece.shown]
  | unclosed pair unescaped unclosed =>
    rw [expandChars_of_unclosed (splitPair_eq_some_iff.mpr pair) unescaped
      (splitPair_eq_none_iff.mpr unclosed)]
    simp [Piece.shown]
  | closed pair unescaped closed _ ih =>
    rw [expandChars_of_closed (splitPair_eq_some_iff.mpr pair) unescaped
      (splitPair_eq_some_iff.mpr closed), ih, resolve_eq]
    simp [Piece.shown]

/-- Only the values of the keys among them count for how pieces are shown. -/
theorem flatMap_shown_congr {pieces : List Piece} {value? value?' : String → Option String}
    (agree : ∀ key ∈ keys pieces, value? key = value?' key) :
    pieces.flatMap (Piece.shown value?) = pieces.flatMap (Piece.shown value?') := by
  refine List.flatMap_congr fun piece member => ?_
  cases piece with
  | literal | escape => rfl
  | placeholder inner =>
    simp only [Piece.shown]
    cases found : key? inner with
    | none => rfl
    | some key =>
      have among : key ∈ keys pieces := List.mem_filterMap.mpr ⟨_, member, found⟩
      rw [Option.bind_some, Option.bind_some, agree key among]

end CollectionRunner.Placeholder
