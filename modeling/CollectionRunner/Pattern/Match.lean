import CollectionRunner.Pattern.Class

/-!
# Patterns and what they match

A pattern is matched by sets of positions: from the positions where a part of the text may start,
the pattern gives the positions where it may end. No choice is ever tried and taken back, so the
work is bounded by the size of the pattern times the square of the length of the text.
-/

namespace CollectionRunner

/-- Conditions on a place in a text. -/
inductive Anchor
  | textStart
  | textEnd
  | lineStart
  | lineEnd
  | wordBoundary
  | noWordBoundary
  | wordStart
  | wordEnd
  | wordStartHalf
  | wordEndHalf
  deriving DecidableEq, Repr

/-- A pattern. -/
inductive Pattern
  | empty
  | set (s : CharSet)
  | anchor (a : Anchor)
  | seq (p q : Pattern)
  | alt (p q : Pattern)
  /-- At least `least` times, and at most `extra` times more; without bound when there is none. -/
  | repeated (p : Pattern) (least : Nat) (extra : Option Nat)
  deriving Repr, Inhabited

namespace Pattern

/-- Positions of a text: one flag before each character and one at the end. -/
abbrev Places := List Bool

/-- Positions that are in one set or the other. -/
def join (a b : Places) : Places := List.zipWith (· || ·) a b

/-- The positions after characters of a set that start at given positions. -/
def advance (s : CharSet) (before : Bool) : List Char → Places → Places
  | c :: cs, p :: ps => before :: advance s (p && s.holds c) cs ps
  | _, _ => [before]

/-- Whether a condition holds between two characters. -/
def Anchor.holds (a : Anchor) (previous next : Option Char) : Bool :=
  let w := fun c : Option Char => c.any Text.wordPart
  match a with
  | .textStart => previous.isNone
  | .textEnd => next.isNone
  | .lineStart => previous.isNone || previous == some '\n'
  | .lineEnd => next.isNone || next == some '\n'
  | .wordBoundary => w previous != w next
  | .noWordBoundary => w previous == w next
  | .wordStart => !w previous && w next
  | .wordEnd => w previous && !w next
  | .wordStartHalf => !w previous
  | .wordEndHalf => !w next

/-- The given positions at which a condition holds. -/
def restrict (a : Anchor) (previous : Option Char) : List Char → Places → Places
  | c :: cs, p :: ps => (p && Anchor.holds a previous (some c)) :: restrict a (some c) cs ps
  | [], p :: _ => [p && Anchor.holds a previous none]
  | _, [] => []

/-- Do a step a number of times. -/
def times (f : Places → Places) : Nat → Places → Places
  | 0, ps => ps
  | n + 1, ps => times f n (f ps)

/-- Do a step any number of times up to a bound, keeping all positions on the way; stop early when
nothing is added. -/
def upTo (f : Places → Places) : Nat → Places → Places
  | 0, ps => ps
  | n + 1, ps =>
    let next := join ps (f ps)
    if next = ps then ps else upTo f n next

/-- Positions where the pattern may end when it starts at one of the given positions. -/
def ends (text : List Char) : Pattern → Places → Places
  | empty, ps => ps
  | set s, ps => advance s false text ps
  | anchor a, ps => restrict a none text ps
  | seq p q, ps => ends text q (ends text p ps)
  | alt p q, ps => join (ends text p ps) (ends text q ps)
  | repeated p least extra, ps =>
    upTo (ends text p) (extra.getD (text.length + 1)) (times (ends text p) least ps)

/-- Whether the pattern matches a part of the text. -/
def matchesIn (p : Pattern) (text : String) : Bool :=
  let cs := text.toList
  (ends cs p (List.replicate (cs.length + 1) true)).any id

/-- Number of states a pattern unfolds to. -/
def size : Pattern → Nat
  | empty => 1
  | set _ => 1
  | anchor _ => 1
  | seq p q => p.size + q.size
  | alt p q => p.size + q.size + 1
  | repeated p least extra => p.size * (least + extra.getD 1) + 1

end Pattern

end CollectionRunner
