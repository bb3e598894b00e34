import CollectionRunner.Text.Category

/-!
# Quoted texts

Messages show a text between quotes so that its ends and its invisible characters can be seen.
-/

namespace CollectionRunner.Text

/-- Code point in lower-case hexadecimal, as an escape. -/
def codeEscape (c : Char) : List Char :=
  "\\u\x7b".toList ++ Nat.toDigits 16 c.toNat ++ ['\x7d']

/-- A character as shown between `quote` marks. -/
def quotedChar (quote : Char) (c : Char) : List Char :=
  if c == quote || c == '\\' then ['\\', c]
  else if c == '\n' then ['\\', 'n']
  else if c == '\r' then ['\\', 'r']
  else if c == '\t' then ['\\', 't']
  else if c == '\x00' then ['\\', '0']
  else if ' ' ≤ c && c ≤ '~' then [c]
  else if extending c || !printable c then codeEscape c
  else [c]

/-- A text between double quotes, with what would not be visible escaped. -/
def quoted (s : String) : String :=
  String.ofList ('"' :: (s.toList.flatMap (quotedChar '"') ++ ['"']))

/-- A character between single quotes. -/
def quotedSingle (c : Char) : String :=
  String.ofList ('\'' :: (quotedChar '\'' c ++ ['\'']))

end CollectionRunner.Text
