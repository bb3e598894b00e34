/-!
# White space
-/

namespace CollectionRunner.Text

/-- White space in the sense of Unicode. -/
def blank (c : Char) : Bool :=
  let n := c.toNat
  (9 ≤ n && n ≤ 13) || n == 0x20 || n == 0x85 || n == 0xa0 || n == 0x1680 ||
    (0x2000 ≤ n && n ≤ 0x200a) || n == 0x2028 || n == 0x2029 || n == 0x202f || n == 0x205f ||
    n == 0x3000

/-- A list of characters without the white space at its two ends. -/
def trimmed (cs : List Char) : List Char :=
  ((cs.dropWhile blank).reverse.dropWhile blank).reverse

/-- A text without the white space at its two ends. -/
def trim (s : String) : String := String.ofList (trimmed s.toList)

/-- Whether a text is empty or white space only. -/
def isBlank (s : String) : Bool := s.toList.all blank

end CollectionRunner.Text
