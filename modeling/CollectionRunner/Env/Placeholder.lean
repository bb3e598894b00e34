import CollectionRunner.Env.Variables
import CollectionRunner.Text.Blank

/-!
# Placeholders

In a text, two braces around a name stand for the value of a variable. A backslash before the
braces keeps them as they are, and a placeholder whose name is malformed or has no value stays as
written. What was inserted is never looked at again.
-/

namespace CollectionRunner

namespace Placeholder

/-- Braces that open a placeholder. -/
def opening : Char := '\x7b'

/-- Braces that close a placeholder. -/
def closing : Char := '\x7d'

/-- Split a text at the first pair of the character `c`: what comes before the pair and after it. -/
def splitPair (c : Char) : List Char → Option (List Char × List Char)
  | [] => none
  | a :: rest =>
    match rest with
    | b :: after =>
      if a = c ∧ b = c then some ([], after)
      else (splitPair c rest).map fun (before, after) => (a :: before, after)
    | [] => none

/-- Characters a name may start with. -/
def startChar (c : Char) : Bool := c.isAlpha || c == '_' || c == '$'

/-- Characters a name may go on with. -/
def nameChar (c : Char) : Bool :=
  c.isAlphanum || c == '_' || c == '.' || c == '-' || c == '$'

/-- Whether a text can be the name of a variable in a placeholder. -/
def validName : List Char → Bool
  | [] => false
  | c :: rest => startChar c && rest.all nameChar

/-- What stands for a placeholder with the raw inner text. -/
def resolve (vars : Variables) (inner : List Char) : List Char :=
  let raw := [opening, opening] ++ inner ++ [closing, closing]
  let name := Text.trimmed inner
  match vars.get? (String.ofList name) with
  | some value => if validName name then value.toList else raw
  | none => raw

/-- The parts around a pair are as long as the text without the pair, so scanning them ends. -/
theorem splitPair_length {c : Char} {cs before after : List Char}
    (h : splitPair c cs = some (before, after)) :
    before.length + after.length + 2 = cs.length := by
  induction cs generalizing before after with
  | nil => simp [splitPair] at h
  | cons a rest ih =>
    cases rest with
    | nil => simp [splitPair] at h
    | cons b tail =>
      rw [splitPair] at h
      cases found : splitPair c (b :: tail) with
      | none =>
        rw [found] at h
        split at h
        · simp only [Option.some.injEq, Prod.mk.injEq] at h
          obtain ⟨rfl, rfl⟩ := h
          simp
        · simp at h
      | some pair =>
        obtain ⟨inner, outer⟩ := pair
        have shorter := ih found
        rw [found] at h
        split at h
        · simp only [Option.some.injEq, Prod.mk.injEq] at h
          obtain ⟨rfl, rfl⟩ := h
          simp
        · simp only [Option.map_some, Option.some.injEq, Prod.mk.injEq] at h
          obtain ⟨rfl, rfl⟩ := h
          simp only [List.length_cons] at shorter ⊢
          omega

/-- Insert the values of variables into a text. -/
def expandChars (vars : Variables) (cs : List Char) : List Char :=
  match opened : splitPair opening cs with
  | none => cs
  | some (before, after) =>
    have := splitPair_length opened
    if before.getLast? = some '\\' then
      before.dropLast ++ [opening, opening] ++ expandChars vars after
    else
      match closed : splitPair closing after with
      | none => cs
      | some (inner, rest) =>
        have := splitPair_length closed
        before ++ resolve vars inner ++ expandChars vars rest
termination_by cs.length
decreasing_by all_goals omega

end Placeholder

/-- Insert the values of variables for the placeholders of a text. -/
def Variables.expand (vars : Variables) (text : String) : String :=
  String.ofList (Placeholder.expandChars vars text.toList)

/-- The variables placeholders refer to: those of the environment hide global ones. -/
def Variables.visible (globals environment : Variables) : Variables :=
  globals.override environment

end CollectionRunner
