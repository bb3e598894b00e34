import CollectionRunner.Number.Parse
import CollectionRunner.Script.Token

/-!
# Reading tokens

`Lexeme.scan` cuts a script into tokens. Two things depend on what came before: whether a minus
belongs to the number after it, and whether a closing brace ends a block inside a text, which then
goes on.
-/

namespace CollectionRunner

/-- The place after a character. -/
def Position.after (p : Position) (c : Char) : Position :=
  if c == '\n' then ⟨p.line + 1, 1⟩ else ⟨p.line, p.column + 1⟩

/-- The place `n` characters further in the line. -/
def Position.right (p : Position) (n : Nat) : Position := ⟨p.line, p.column + n⟩

/-- What is left of a script, and the place where it starts. -/
structure Source where
  rest : List Char
  place : Position
  deriving Repr, Inhabited

namespace Lexeme

/-! ## White space and comments -/

/-- What is being skipped. -/
inductive Skipping
  | blanks
  | line
  | block (depth : Nat)

/-- Skip white space and comments; comments in stars nest. -/
def skip : Skipping → Position → List Char → Source
  | .blanks, p, '/' :: '/' :: rest => skip .line (p.right 2) rest
  | .blanks, p, '/' :: '*' :: rest => skip (.block 1) (p.right 2) rest
  | .blanks, p, c :: rest => if Text.blank c then skip .blanks (p.after c) rest else ⟨c :: rest, p⟩
  | .line, p, c :: rest => skip (if c == '\n' then .blanks else .line) (p.after c) rest
  | .block d, p, '/' :: '*' :: rest => skip (.block (d + 1)) (p.right 2) rest
  | .block d, p, '*' :: '/' :: rest =>
    skip (if d ≤ 1 then .blanks else .block (d - 1)) (p.right 2) rest
  | .block d, p, c :: rest => skip (.block d) (p.after c) rest
  | _, p, [] => ⟨[], p⟩

/-! ## Numbers -/

/-- Characters of names. -/
def wordChar (c : Char) : Bool := c.isAlphanum || c == '_'

/-- Value of a digit in a base of at most sixteen. -/
def digitValue (c : Char) : Nat :=
  if c.isDigit then c.toNat - '0'.toNat
  else if 'a' ≤ c && c ≤ 'f' then c.toNat - 'a'.toNat + 10
  else if 'A' ≤ c && c ≤ 'F' then c.toNat - 'A'.toNat + 10
  else 16

/-- The characters of a decimal number, last one first, and what follows it. `pointed` and `scaled`
say whether a point and an exponent can no longer come. -/
def decimal (pointed scaled : Bool) (seen : List Char) : List Char → List Char × List Char
  | [] => (seen, [])
  | c :: rest =>
    let next := rest.head?.getD '_'
    if c.isDigit then decimal pointed scaled (c :: seen) rest
    else if c == '_' then decimal pointed scaled seen rest
    else if c == '.' && !pointed then
      if next.isDigit then decimal true scaled ('.' :: seen) rest
      else if next == '.' || next == '_' || next.isAlpha then (seen, c :: rest)
      else decimal true scaled ('0' :: '.' :: seen) rest
    else if (c == 'e' || c == 'E') && !scaled then
      if next.isDigit || next == '+' || next == '-' then decimal true true ('e' :: seen) rest
      else (seen, c :: rest)
    else if (c == '+' || c == '-') && seen.head? == some 'e' then
      decimal pointed scaled (c :: seen) rest
    else (seen, c :: rest)

/-- Value of digits in a base; nothing when there are none, when one is too large, or when the value
does not fit 64 bits. -/
def radixValue (base : Nat) (digits : List Char) : Option Int64 :=
  if digits.isEmpty || digits.any fun c => base ≤ digitValue c then none
  else
    let n := digits.foldl (fun n c => n * base + digitValue c) 0
    if n < wordBound then some (Int64.ofNat n) else none

/-- Digits in a base, with their separators left out, and what follows them. -/
def radixDigits (hexadecimal : Bool) (cs : List Char) : List Char × List Char :=
  let fits (c : Char) := c == '_' || if hexadecimal then digitValue c < 16 else c.isDigit
  ((cs.takeWhile fits).filter (· != '_'), cs.dropWhile fits)

/-- The token of a decimal number: an integer when it is one that fits 64 bits, else a double. -/
def decimalToken (negative : Bool) (digits : List Char) : Token :=
  let s := String.ofList (if negative then '-' :: digits else digits)
  let n : Int := Number.digitsValue digits
  let value := if negative then -n else n
  if digits.all Char.isDigit && -(Number.twoTo 63) ≤ value && value < Number.twoTo 63 then
    .int (Int64.ofInt value)
  else
    match Number.parse s with
    | some x => .float x
    | none => .bad (.badNumber s)

/-- The number a text starts with, and what follows it. -/
def number (negative : Bool) (cs : List Char) : Token × List Char :=
  let based (base : Nat) (rest : List Char) :=
    let (digits, rest) := radixDigits (base == 16) rest
    match radixValue base digits with
    | some i => (.int (if negative then -i else i), rest)
    | none => (.bad (.badNumber (String.ofList digits)), rest)
  match cs with
  | '0' :: 'x' :: rest => based 16 rest
  | '0' :: 'X' :: rest => based 16 rest
  | '0' :: 'o' :: rest => based 8 rest
  | '0' :: 'O' :: rest => based 8 rest
  | '0' :: 'b' :: rest => based 2 rest
  | '0' :: 'B' :: rest => based 2 rest
  | _ =>
    let (digits, rest) := decimal false false [] cs
    (decimalToken negative digits.reverse, rest)

/-! ## Texts -/

/-- How a text ends: at its closing mark, where a block in it starts, or not properly. -/
inductive TextEnd
  | closed (text : List Char) (after : Source)
  | opened (text : List Char) (after : Source)
  | faulty (fault : TokenFault) (place : Position)

/-- How far an escape in a text has been read. -/
inductive Escape
  | none
  | begun
  | hexadecimal (missing : Nat) (seen : List Char) (value : Nat)

/-- Read a text that closes with `close`. `start` is where it starts, `margin` the column up to which
white space is left out, `seen` what was read, last character first. -/
def quotedText (close : Char) (start : Position) :
    Escape → Nat → List Char → Position → List Char → TextEnd
  | _, _, _, _, [] => .faulty .unterminated start
  | .hexadecimal missing written value, margin, seen, p, c :: rest =>
    let written := written ++ [c]
    let bad := TextEnd.faulty (.badEscape (String.ofList written)) p
    if 16 ≤ digitValue c then bad
    else
      let value := value * 16 + digitValue c
      if 1 < missing then
        quotedText close start (.hexadecimal (missing - 1) written value) margin seen (p.after c) rest
      else if value.isValidChar then
        quotedText close start .none margin (Char.ofNat value :: seen) (p.after c) rest
      else bad
  | .begun, margin, seen, p, c :: rest =>
    let plain (d : Char) := quotedText close start .none margin (d :: seen) (p.after c) rest
    let coded (digits : Nat) :=
      quotedText close start (.hexadecimal digits ['\\', c] 0) margin seen (p.after c) rest
    if c == '\\' then plain '\\'
    else if c == 't' then plain '\t'
    else if c == 'n' then plain '\n'
    else if c == 'r' then plain '\r'
    else if c == 'x' then coded 2
    else if c == 'u' then coded 4
    else if c == 'U' then coded 8
    else if c == close then plain c
    else if c == '\n' && close == '"' then
      quotedText close start .none (start.column + 1) seen (p.after c) rest
    else if c == '\n' then .faulty .unterminated start
    else .faulty (.badEscape (String.ofList ['\\', c])) p
  | .none, margin, seen, p, c :: rest =>
    if c == '\\' then quotedText close start .begun margin seen (p.after c) rest
    else if c == close then
      match rest with
      | d :: after =>
        if d == close then quotedText close start .none 0 (c :: seen) ((p.after c).after d) after
        else .closed seen.reverse ⟨rest, p.after c⟩
      | [] => .closed seen.reverse ⟨rest, p.after c⟩
    else if c == '\n' then .faulty .unterminated start
    else if c == '\r' && rest.head? == some '\n' then
      quotedText close start .none margin seen (p.after c) rest
    else if Text.blank c && p.column < margin then
      quotedText close start .none margin seen (p.after c) rest
    else quotedText close start .none 0 (c :: seen) (p.after c) rest

/-- Read a text that is taken as it stands, up to its closing mark or a block in it. -/
def rawText (start : Position) (seen : List Char) (p : Position) : List Char → TextEnd
  | [] => .faulty .unterminated start
  | '$' :: '\x7b' :: rest => .opened seen.reverse ⟨'\x7b' :: rest, p.right 1⟩
  | '\x60' :: '\x60' :: rest => rawText start ('\x60' :: seen) (p.right 2) rest
  | '\x60' :: rest => .closed seen.reverse ⟨rest, p.right 1⟩
  | '\r' :: '\n' :: rest => rawText start ('\n' :: seen) (p.after '\n') rest
  | c :: rest => rawText start (c :: seen) (p.after c) rest

/-- The line end right after the opening mark of a text is left out. -/
def afterOpening (s : Source) : Source :=
  match s.rest with
  | '\r' :: '\n' :: rest => ⟨rest, s.place.after '\n'⟩
  | '\n' :: rest => ⟨rest, s.place.after '\n'⟩
  | _ => s

/-! ## Tokens in a row -/

/-- What the tokens read so far mean for the next one. -/
structure Context where
  /-- The last token. -/
  previous : Token
  /-- For each text that was left for a block, innermost first, how many braces are open in it. -/
  blocks : List Nat
  /-- Where the block ended whose text goes on now. -/
  resumed : Option Position

/-- A token, the place of it, and what is left. -/
structure Found where
  token : Token
  place : Position
  after : Source

/-- The token of a text and what is left after it. -/
def ofTextEnd (start : Position) (whole : List Char → Token) : TextEnd → Found
  | .closed text after => ⟨whole text, start, after⟩
  | .opened text after => ⟨.opened (String.ofList text), start, after⟩
  | .faulty fault place => ⟨.bad fault, place, ⟨[], place⟩⟩

/-- The token of a character in quotes. -/
def charToken : List Char → Token
  | [c] => .char c
  | cs => .bad (.badCharacter (String.ofList cs))

/-- The token of a text in quotes. -/
def textToken (cs : List Char) : Token := .text (String.ofList cs)

/-- The next token of a script that does not start with white space. -/
def next (previous : Token) (s : Source) : Found :=
  let p := s.place
  match s.rest with
  | [] => ⟨.ending, p, s⟩
  | c :: rest =>
    let afterC : Source := ⟨rest, p.after c⟩
    let numbered (negative : Bool) (cs : List Char) :=
      let (token, left) := number negative cs
      ⟨token, p, ⟨left, p.right (s.rest.length - left.length)⟩⟩
    let signed :=
      match Token.longestSign s.rest with
      | some sign =>
        ⟨Token.ofSign sign, p, ⟨s.rest.drop sign.length, p.right sign.length⟩⟩
      | none => ⟨.bad (.unexpected c.toString), p, afterC⟩
    if c.isDigit then numbered false s.rest
    else if c.isAlpha || c == '_' then
      let word := s.rest.takeWhile wordChar
      let token :=
        match previous with
        | .sign "." => if word == "debug".toList then .name "debug" else Token.ofWord word
        | _ => Token.ofWord word
      ⟨token, p, ⟨s.rest.dropWhile wordChar, p.right word.length⟩⟩
    else if c == '"' then ofTextEnd p textToken (quotedText '"' p .none 0 [] afterC.place rest)
    else if c == '\'' then
      match rest with
      | '\'' :: _ => ⟨.bad (.badCharacter ""), p, afterC⟩
      | _ => ofTextEnd p charToken (quotedText '\'' p .none 0 [] afterC.place rest)
    else if c == '\x60' then
      let inner := afterOpening afterC
      ofTextEnd p textToken (rawText p [] inner.place inner.rest)
    else
      match c, rest with
      | '-', d :: _ =>
        if d.isDigit && previous.beforeOperand then numbered true rest else signed
      | '!', 'i' :: 'n' :: after =>
        if (after.head?.map wordChar).getD false then signed
        else ⟨.sign "!in", p, ⟨after, p.right 3⟩⟩
      | _, _ => signed

/-- What a token means for the next one. -/
def Context.after (c : Context) (found : Found) : Context :=
  let blocks := match found.token, c.blocks with
    | .opened _, blocks => 0 :: blocks
    | .sign "\x7b", n :: blocks => (n + 1) :: blocks
    | .sign "#\x7b", n :: blocks => (n + 1) :: blocks
    | .sign "\x7d", n :: blocks => (n - 1) :: blocks
    | _, blocks => blocks
  match found.token, blocks with
  | .sign "\x7d", 0 :: outer => ⟨found.token, outer, some found.place⟩
  | _, _ => ⟨found.token, blocks, none⟩

/-- The tokens of a script, at most `fuel` of them. The last one is the end of the script or a token
that cannot be read. -/
def scanFrom : Nat → Context → Source → List Lexeme
  | 0, _, s => [⟨.ending, s.place⟩]
  | fuel + 1, c, s =>
    let found :=
      match c.resumed with
      | some p => ofTextEnd p textToken (rawText p [] s.place s.rest)
      | none => next c.previous (skip .blanks s.place s.rest)
    let lexeme : Lexeme := ⟨found.token, found.place⟩
    match found.token with
    | .ending => [lexeme]
    | .bad _ => [lexeme]
    | _ => lexeme :: scanFrom fuel (c.after found) found.after

/-- The tokens of a script. -/
def scan (text : String) : List Lexeme :=
  let cs := text.toList
  scanFrom (2 * cs.length + 1) ⟨.sign ";", [], none⟩ ⟨cs, ⟨1, 1⟩⟩

end Lexeme

end CollectionRunner
