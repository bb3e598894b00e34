import CollectionRunner.Env.Placeholder
import CollectionRunner.Proofs.Env.Replay

/-!
# Expansions

Where the placeholders of a text are does not depend on any variables: `Placeholder.segments` cuts
the text into them and what is between them, and an expansion shows one segment after the other
(`Variables.expand_eq`).  What stands for a placeholder is looked up, and in variables on top of
others the upper ones are looked up first (`Variables.get?_override`), so that only lookups count for
an expansion.
-/

namespace CollectionRunner

/-! ## Variables on top of others -/

/-- Entries in order name every variable once, so each of them is set to its one value. -/
theorem Variables.get?_setAll {entries : List (String × String)} (ordered : Ordered entries)
    (vars : Variables) (name : String) :
    (vars.setAll entries).get? name = (entries.lookup name).or (vars.get? name) := by
  induction entries generalizing vars with
  | nil => rfl
  | cons first rest ih =>
    obtain ⟨key, value⟩ := first
    obtain ⟨above, tail⟩ := List.pairwise_cons.mp ordered
    have later := ih tail (vars.set key value)
    rw [get?_set] at later
    change ((vars.set key value).setAll rest).get? name = _
    rw [later]
    by_cases named : name = key
    · rw [named, lookup_of_before above, if_pos rfl, List.lookup_cons_self]
      rfl
    · rw [if_neg named, List.lookup_cons, beq_false_of_ne named]

theorem Variables.get?_override (base upper : Variables) (name : String) :
    (base.override upper).get? name = (upper.get? name).or (base.get? name) :=
  get?_setAll upper.ordered base name

namespace Placeholder

/-! ## Segments -/

/-- A piece of a text. -/
inductive Segment
  | literal (cs : List Char)
  /-- A placeholder, with what is between its braces. -/
  | placeholder (inner : List Char)
  deriving DecidableEq, Repr

/-- What a piece of a text is shown as, where names have values. -/
def Segment.shown (value? : String → Option String) : Segment → List Char
  | literal cs => cs
  | placeholder inner =>
    let name := Text.trimmed inner
    let raw := [opening, opening] ++ inner ++ [closing, closing]
    match value? (String.ofList name) with
    | some value => if validName name then value.toList else raw
    | none => raw

/-- The pieces of a text. An escape is literal without its backslash, and so is a text from braces on
that nothing closes. -/
def segments (cs : List Char) : List Segment :=
  match opened : splitPair opening cs with
  | none => [.literal cs]
  | some (before, after) =>
    have := splitPair_length opened
    if before.getLast? = some '\\' then
      .literal (before.dropLast ++ [opening, opening]) :: segments after
    else
      match closed : splitPair closing after with
      | none => [.literal cs]
      | some (inner, rest) =>
        have := splitPair_length closed
        .literal before :: .placeholder inner :: segments rest
termination_by cs.length
decreasing_by all_goals omega

section

variable {cs before after inner rest : List Char}

theorem expandChars_of_unopened (unopened : splitPair opening cs = none) (vars : Variables) :
    expandChars vars cs = cs := by
  rw [expandChars]
  split
  · rfl
  · rename_i opened
    cases unopened.symm.trans opened

/-- Behind a backslash an opening pair is text: it stays, and the backslash goes. -/
theorem expandChars_of_escaped (opened : splitPair opening cs = some (before, after))
    (escaped : before.getLast? = some '\\') (vars : Variables) :
    expandChars vars cs = before.dropLast ++ [opening, opening] ++ expandChars vars after := by
  rw [expandChars]
  split
  · rename_i unopened
    cases unopened.symm.trans opened
  · rename_i found
    cases opened.symm.trans found
    rw [if_pos escaped]

/-- A text whose first placeholder is not closed is left as it is. -/
theorem expandChars_of_unclosed (opened : splitPair opening cs = some (before, after))
    (unescaped : before.getLast? ≠ some '\\') (unclosed : splitPair closing after = none)
    (vars : Variables) : expandChars vars cs = cs := by
  rw [expandChars]
  split
  · rfl
  · rename_i found
    cases opened.symm.trans found
    rw [if_neg unescaped]
    split
    · rfl
    · rename_i closed
      cases unclosed.symm.trans closed

/-- A placeholder that is closed is replaced, and the text behind it is expanded on its own. -/
theorem expandChars_of_closed (opened : splitPair opening cs = some (before, after))
    (unescaped : before.getLast? ≠ some '\\')
    (closed : splitPair closing after = some (inner, rest)) (vars : Variables) :
    expandChars vars cs = before ++ resolve vars inner ++ expandChars vars rest := by
  rw [expandChars]
  split
  · rename_i unopened
    cases unopened.symm.trans opened
  · rename_i found
    cases opened.symm.trans found
    rw [if_neg unescaped]
    split
    · rename_i unclosed
      cases unclosed.symm.trans closed
    · rename_i found
      cases closed.symm.trans found
      rfl

end

/-- An expansion shows the pieces of its text, one after the other. -/
theorem expandChars_eq (vars : Variables) (cs : List Char) :
    expandChars vars cs = (segments cs).flatMap (Segment.shown vars.get?) := by
  fun_induction segments cs with
  | case1 cs unopened =>
    rw [expandChars_of_unopened unopened]
    exact (List.append_nil cs).symm
  | case2 cs before after opened _ escaped ih =>
    rw [expandChars_of_escaped opened escaped, ih]
    rfl
  | case3 cs before after opened _ unescaped unclosed =>
    rw [expandChars_of_unclosed opened unescaped unclosed]
    exact (List.append_nil cs).symm
  | case4 cs before after opened _ unescaped inner rest closed _ ih =>
    rw [expandChars_of_closed opened unescaped closed, ih, List.append_assoc]
    rfl

end Placeholder

theorem Variables.expand_eq (vars : Variables) (text : String) :
    vars.expand text =
      String.ofList ((Placeholder.segments text.toList).flatMap
        (Placeholder.Segment.shown vars.get?)) :=
  congrArg String.ofList (Placeholder.expandChars_eq vars text.toList)

end CollectionRunner
