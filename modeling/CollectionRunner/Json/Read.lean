import CollectionRunner.Json.Numeral

/-!
# Reading JSON texts

`read` turns any text into a tree and the fault, if any, of what follows it. Nothing is refused
here: where the text is malformed the tree says so. Trees nested deeper than `maxDepth` cannot be
read as values, though they can be skipped.
-/

namespace CollectionRunner.Json

/-- Deepest nesting of values that are read. -/
def maxDepth : Nat := 127

/-- White space between tokens. -/
def gap (c : Char) : Bool := c == ' ' || c == '\n' || c == '\t' || c == '\r'

/-- A text without the white space it starts with. -/
def skipGap (cs : List Char) : List Char := cs.dropWhile gap

/-- What was read and the text after it; no text when reading cannot go on. -/
structure Step where
  json : Json
  rest : Option (List Char)

/-- A value that stops the reading. -/
def Step.stopped (read skip : Fault) : Step := ⟨.torn read (some skip), none⟩

/-! ## Strings -/

/-- Value of a hexadecimal digit. -/
def hexDigit (c : Char) : Option Nat :=
  if c.isDigit then some (c.toNat - '0'.toNat)
  else if 'a' ≤ c && c ≤ 'f' then some (c.toNat - 'a'.toNat + 10)
  else if 'A' ≤ c && c ≤ 'F' then some (c.toNat - 'A'.toNat + 10)
  else none

/-- Value of four hexadecimal digits. -/
def hexFour (a b c d : Char) : Option Nat := do
  let a ← hexDigit a
  let b ← hexDigit b
  let c ← hexDigit c
  let d ← hexDigit d
  return ((a * 16 + b) * 16 + c) * 16 + d

/-- Fault of an escape that is not followed by four hexadecimal digits. -/
def shortEscape (rest : List Char) : Fault :=
  if bytes rest < 4 then .text .stringEnded 0 else .text .badEscape (bytes rest - 4)

/-- Characters written with a backslash and one letter. -/
def simpleEscape : Char → Option Char
  | '"' => some '"'
  | '\\' => some '\\'
  | '/' => some '/'
  | 'b' => some '\x08'
  | 'f' => some '\x0c'
  | 'n' => some '\n'
  | 'r' => some '\r'
  | 't' => some '\t'
  | _ => none

/-- What is known while a string is read: its characters, last first, a leading surrogate waiting for
the trailing one, and the first fault of an escape that names no character. -/
structure Reading where
  chars : List Char
  leading : Option Nat
  broken : Option Fault

/-- Nothing read yet. -/
def Reading.initial : Reading := ⟨[], none, none⟩

/-- Note a fault of an escape. -/
def Reading.break (r : Reading) (fault : Fault) : Reading :=
  { r with leading := none, broken := r.broken.or (some fault) }

/-- A surrogate that is still waiting can no longer be completed by what follows. -/
def Reading.settle (r : Reading) (cs : List Char) : Reading :=
  if r.leading.isSome then
    r.break (if cs.isEmpty then .text .stringEnded 0 else nextTo .halfPair cs)
  else r

/-- Add a character. -/
def Reading.push (r : Reading) (c : Char) : Reading := { r with chars := c :: r.chars }

/-- Add the unit of an escape with four digits, which a text follows. -/
def Reading.pushUnit (r : Reading) (code : Nat) (rest : List Char) : Reading :=
  match r.leading with
  | some high =>
    if 0xdc00 ≤ code ∧ code ≤ 0xdfff then
      { r with
        chars := Char.ofNat (0x10000 + (high - 0xd800) * 0x400 + (code - 0xdc00)) :: r.chars
        leading := none }
    else r.break (before .loneSurrogate rest)
  | none =>
    if 0xdc00 ≤ code ∧ code ≤ 0xdfff then r.break (before .loneSurrogate rest)
    else if 0xd800 ≤ code ∧ code ≤ 0xdbff then { r with leading := some code }
    else r.push (Char.ofNat code)

/-- Faults of reading and of skipping a string that stops here. A broken escape is found by reading,
not by skipping. -/
def Reading.stop (r : Reading) (read skip : Fault) : Fault × Fault := (r.broken.getD read, skip)

/-- Faults of a string that ends before its closing quote. -/
def Reading.unclosed (r : Reading) : Fault × Fault :=
  r.stop (.text .stringEnded 0) (.text .stringEnded 0)

/-- Read a string after its opening quote: the text, or the fault of an escape in it, and what follows
the closing quote; or the faults of reading and of skipping. -/
def readString (r : Reading) : List Char →
    Except (Fault × Fault) (Except Fault String × List Char)
  | [] => .error r.unclosed
  | '"' :: rest =>
    let r := r.settle ('"' :: rest)
    .ok (match r.broken with
      | some fault => .error fault
      | none => .ok (String.ofList r.chars.reverse), rest)
  | '\\' :: 'u' :: a :: b :: c :: d :: rest =>
    match hexFour a b c d with
    | some code => readString (r.pushUnit code rest) rest
    | none =>
      let fault := shortEscape (a :: b :: c :: d :: rest)
      .error (r.stop fault fault)
  | '\\' :: 'u' :: rest => .error (r.stop (shortEscape rest) (shortEscape rest))
  | '\\' :: c :: rest =>
    let r := r.settle (c :: rest)
    match simpleEscape c with
    | some e => readString (r.push e) rest
    | none => .error (r.stop (nextTo .badEscape (c :: rest)) (nextTo .badEscape (c :: rest)))
  | '\\' :: [] => .error r.unclosed
  | c :: rest =>
    let r := r.settle (c :: rest)
    if c.toNat < 0x20 then
      .error (r.stop (before .controlCharacter rest) (before .controlCharacter (c :: rest)))
    else readString (r.push c) rest

/-! ## Numbers -/

/-- A number that stops where a digit is to come; only reading finds that the text has ended. -/
def Step.digitMissing (cs : List Char) : Step :=
  Step.stopped (if cs.isEmpty then .text .valueEnded 0 else nextTo .badNumber cs) (nextTo .badNumber cs)

/-- Read the exponent after its letter. -/
def readExponent (whole : List Char) (fraction : Option (List Char)) (negative : Bool)
    (cs : List Char) : Step :=
  let (positive, cs) := match cs with
    | '+' :: rest => (true, rest)
    | '-' :: rest => (false, rest)
    | _ => (true, cs)
  let digits := cs.takeWhile Char.isDigit
  let rest := cs.dropWhile Char.isDigit
  if digits.isEmpty then Step.digitMissing rest
  else
    ⟨(Numeral.of whole fraction (some (positive, digits)) negative).json negative digits rest,
      some rest⟩

/-- Read a number after its sign. -/
def readNumber (negative : Bool) (cs : List Char) : Step :=
  let whole := cs.takeWhile Char.isDigit
  let rest := cs.dropWhile Char.isDigit
  let ended (fraction : Option (List Char)) (rest : List Char) : Step :=
    ⟨(Numeral.of whole fraction none negative).json negative [] rest, some rest⟩
  match whole with
  | [] => Step.digitMissing rest
  | '0' :: _ :: _ =>
    let fault := nextTo .badNumber (cs.drop 1)
    Step.stopped fault fault
  | _ =>
    match rest with
    | '.' :: rest =>
      let fraction := rest.takeWhile Char.isDigit
      let rest := rest.dropWhile Char.isDigit
      if fraction.isEmpty then Step.digitMissing rest
      else
        match rest with
        | 'e' :: rest => readExponent whole (some fraction) negative rest
        | 'E' :: rest => readExponent whole (some fraction) negative rest
        | _ => ended (some fraction) rest
    | 'e' :: rest => readExponent whole none negative rest
    | 'E' :: rest => readExponent whole none negative rest
    | _ => ended none rest

/-! ## Values -/

/-- A value that stops where its text ends. -/
def Step.ended : Step := Step.stopped (.text .valueEnded 0) (.text .valueEnded 0)

/-- Read the rest of a word such as `true`. -/
def readWord (json : Json) : List Char → List Char → Step
  | [], rest => ⟨json, some rest⟩
  | _ :: _, [] => Step.ended
  | w :: word, c :: rest =>
    if w = c then readWord json word rest
    else Step.stopped (nextTo .wordExpected (c :: rest)) (nextTo .wordExpected (c :: rest))

/-- Mark a container that is nested too deeply to be read; `cs` is the text from it on. -/
def limitDepth (depth : Nat) (cs : List Char) (s : Step) : Step :=
  if maxDepth ≤ depth then { s with json := .torn (nextTo .nestedTooDeep cs) s.json.skipFault } else s

/-- The items of an array that stop here. -/
def stopItems (fault : Fault) : List Json × Option (List Char) :=
  ([.cut fault (some fault)], none)

/-- The fields of an object that stop here. -/
def stopFields (read skip : Fault) : List (String × Json) × Option (List Char) :=
  ([("", .cut read (some skip))], none)

mutual

/-- Read a value nested in `depth` containers. The fuel bounds the number of values and separators,
which the length of the text does. -/
def readValue : Nat → Nat → List Char → Step
  | 0, _, _ => Step.ended
  | fuel + 1, depth, cs =>
    match skipGap cs with
    | [] => Step.ended
    | 'n' :: rest => readWord .null ['u', 'l', 'l'] rest
    | 't' :: rest => readWord (.bool true) ['r', 'u', 'e'] rest
    | 'f' :: rest => readWord (.bool false) ['a', 'l', 's', 'e'] rest
    | '"' :: rest =>
      match readString .initial rest with
      | .ok (.ok s, rest) => ⟨.string s, some rest⟩
      | .ok (.error fault, rest) => ⟨.torn fault none, some rest⟩
      | .error (read, skip) => Step.stopped read skip
    | '-' :: rest => readNumber true rest
    | '[' :: rest =>
      let (items, after) := readItems fuel (depth + 1) true rest
      limitDepth depth ('[' :: rest) ⟨.array items, after⟩
    | '\x7b' :: rest =>
      let (fields, after) := readFields fuel (depth + 1) true rest
      limitDepth depth ('\x7b' :: rest) ⟨.object fields, after⟩
    | c :: rest =>
      if c.isDigit then readNumber false (c :: rest)
      else Step.stopped (nextTo .valueExpected (c :: rest)) (nextTo .valueExpected (c :: rest))

/-- Read the items of an array from after its bracket or from after an item. -/
def readItems : Nat → Nat → Bool → List Char → List Json × Option (List Char)
  | 0, _, _, _ => stopItems (.text .listEnded 0)
  | fuel + 1, depth, first, cs =>
    let item (cs : List Char) : List Json × Option (List Char) :=
      let s := readValue fuel depth cs
      match s.rest with
      | none => ([s.json], none)
      | some rest =>
        let (items, rest) := readItems fuel depth false rest
        (s.json :: items, rest)
    match skipGap cs with
    | [] => stopItems (.text .listEnded 0)
    | ']' :: rest => ([], some rest)
    | ',' :: rest =>
      if first then item (',' :: rest)
      else
        match skipGap rest with
        | ']' :: rest =>
          ([.torn (nextTo .trailingComma (']' :: rest)) (some (nextTo .valueExpected (']' :: rest)))], none)
        | rest => item rest
    | cs => if first then item cs else stopItems (nextTo .listCommaExpected cs)

/-- Read the fields of an object from after its brace or from after a field. -/
def readFields : Nat → Nat → Bool → List Char → List (String × Json) × Option (List Char)
  | 0, _, _, _ => stopFields (.text .objectEnded 0) (.text .objectEnded 0)
  | fuel + 1, depth, first, cs =>
    let entry (cs : List Char) : List (String × Json) × Option (List Char) :=
      match cs with
      | '"' :: rest =>
        match readString .initial rest with
        | .error (read, skip) => stopFields read skip
        | .ok (key, rest) =>
          let stopped (fault : Fault) : Step := ⟨.cut fault (some fault), none⟩
          let s : Step :=
            match skipGap rest with
            | [] => stopped (.text .objectEnded 0)
            | ':' :: rest => readValue fuel depth rest
            | rest => stopped (nextTo .colonExpected rest)
          let field := match key with
            | .ok key => (key, s.json)
            | .error fault => ("", .cut fault s.json.skipFault)
          match s.rest with
          | none => ([field], none)
          | some rest =>
            let (fields, rest) := readFields fuel depth false rest
            (field :: fields, rest)
      | cs => stopFields (nextTo .keyExpected cs) (nextTo .keyExpected cs)
    match skipGap cs with
    | [] => stopFields (.text .objectEnded 0) (.text .objectEnded 0)
    | '\x7d' :: rest => ([], some rest)
    | ',' :: rest =>
      if first then stopFields (nextTo .keyExpected (',' :: rest)) (nextTo .keyExpected (',' :: rest))
      else
        match skipGap rest with
        | [] => stopFields (.text .valueEnded 0) (.text .objectEnded 0)
        | '\x7d' :: rest =>
          stopFields (nextTo .trailingComma ('\x7d' :: rest)) (nextTo .keyExpected ('\x7d' :: rest))
        | rest => entry rest
    | cs =>
      if first then entry cs
      else stopFields (nextTo .objectCommaExpected cs) (nextTo .objectCommaExpected cs)

end

/-- A text read as a document: its tree and the fault of what follows the tree. -/
structure Document where
  json : Json
  trailing : Option Fault

/-- Most values and separators that a text can have. -/
def fuelFor (cs : List Char) : Nat := 2 * cs.length + 2

/-- Read a text. -/
def read (text : String) : Document :=
  let cs := text.toList
  let s := readValue (fuelFor cs) 0 cs
  match s.rest with
  | none => ⟨s.json, none⟩
  | some rest =>
    match skipGap rest with
    | [] => ⟨s.json, none⟩
    | rest => ⟨s.json, some (nextTo .trailingText rest)⟩

end CollectionRunner.Json
