import CollectionRunner.Number.Digits

/-!
# Random values

A source of random values is a word; drawing moves it on and mixes its bits. What is drawn from a
range lies in the range, whatever the source.
-/

namespace CollectionRunner.Random

/-- Where random values come from. -/
abbrev Seed := UInt64

/-- The source after a value was drawn. -/
def next (s : Seed) : Seed := s + 0x9E3779B97F4A7C15

/-- The word that is drawn. -/
def word (s : Seed) : UInt64 :=
  let x := (s ^^^ (s >>> 30)) * 0xBF58476D1CE4E5B9
  let x := (x ^^^ (x >>> 27)) * 0x94D049BB133111EB
  x ^^^ (x >>> 31)

/-- Some words, and the source after them. -/
def words : Nat → Seed → List UInt64 × Seed
  | 0, s => ([], s)
  | n + 1, s =>
    let (rest, t) := words n (next s)
    (word s :: rest, t)

/-- A number below a bound that is not zero. -/
def below (bound : Nat) (w : UInt64) : Nat := w.toNat * bound / Number.twoTo 64

theorem below_lt {bound : Nat} (w : UInt64) (positive : 0 < bound) : below bound w < bound := by
  have := w.toNat_lt
  unfold below
  rw [Nat.div_lt_iff_lt_mul (Number.twoTo_pos 64), Nat.mul_comm]
  exact Nat.mul_lt_mul_of_pos_left this positive

/-- An integer from the lower to the higher of two bounds, both included. -/
def between (a b : Int) (w : UInt64) : Int :=
  let low := min a b
  low + below ((max a b - low).toNat + 1) w

theorem between_bounds (a b : Int) (w : UInt64) :
    min a b ≤ between a b w ∧ between a b w ≤ max a b := by
  have := below_lt w (Nat.succ_pos (max a b - min a b).toNat)
  simp only [between, Nat.succ_eq_add_one] at *
  omega

/-- A double from zero, included, to one, excluded. -/
def fraction (w : UInt64) : Float := (w >>> 11).toFloat / 9007199254740992.0

/-- A double from the lower of two bounds, included, to the higher, excluded. Equal bounds give the
bound. Nothing is given for bounds that are not finite, or too far apart. -/
def floatBetween (a b : Float) (w : UInt64) : Option Float :=
  let (low, high) := if a ≤ b then (a, b) else (b, a)
  if !Number.finite low || !Number.finite high || !Number.finite (high - low) then none
  else
    let x := low + fraction w * (high - low)
    some (if x < high then x else low)

/-- An item of a list that is not empty. -/
def pick [Inhabited α] (items : List α) (w : UInt64) : α :=
  items.getD (below items.length w) default

/-- Letters and digits. -/
def alphanumerics : List Char :=
  "ABCDEFGHIJKLMNOPQRSTUVWXYZabcdefghijklmnopqrstuvwxyz0123456789".toList

/-- Letters and digits, one for each word. -/
def string (ws : List UInt64) : String := String.ofList (ws.map (pick alphanumerics))

/-- Hexadecimal digits of a word, sixteen of them. -/
def hexDigits (w : UInt64) : List Char :=
  let digits := Nat.toDigits 16 w.toNat
  List.replicate (16 - digits.length) '0' ++ digits

/-- An identifier in its usual form: 32 hexadecimal digits in groups, two of which say how it was
made. -/
def identifier (a b : UInt64) : String :=
  let digits := hexDigits a ++ hexDigits b
  let part (start size : Nat) := (digits.drop start).take size
  let variant := pick "89ab".toList (b <<< 32)
  String.ofList (part 0 8 ++ ['-'] ++ part 8 4 ++ ['-', '4'] ++ part 13 3 ++ ['-', variant] ++
    part 17 3 ++ ['-'] ++ part 20 12)

/-- First words of names. -/
def adjectives : List String :=
  ["brave", "calm", "clever", "eager", "fair", "gentle", "happy", "jolly", "kind", "lively",
   "merry", "neat", "polite", "proud", "quick", "quiet", "sharp", "smart", "sunny", "warm"]

/-- Last words of names. -/
def animals : List String :=
  ["badger", "beetle", "crane", "deer", "dove", "finch", "fox", "hare", "heron", "lark",
   "lynx", "mole", "otter", "owl", "robin", "seal", "stork", "swan", "toad", "wren"]

/-- A name of two words. -/
def name (separator : String) (a b : UInt64) : String :=
  pick adjectives a ++ separator ++ pick animals b

end CollectionRunner.Random
