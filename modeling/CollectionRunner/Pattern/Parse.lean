import CollectionRunner.Number.Power
import CollectionRunner.Pattern.Match

/-!
# Reading patterns

Patterns have groups, alternatives, greedy and lazy repetitions, bracketed classes with set
operations, escapes, and flags that hold to the end of their group. There is no look-around and
there are no references to groups. What the pattern captures and how greedy it is does not matter
for the question whether it matches, so neither is kept.
-/

namespace CollectionRunner

namespace Pattern

/-- Flags that are set at a place of a pattern. -/
structure Flags where
  /-- Case is ignored. -/
  fold : Bool
  /-- Line anchors match at lines. -/
  lines : Bool
  /-- The dot matches line breaks. -/
  dotAll : Bool
  /-- White space and comments are skipped. -/
  spaced : Bool
  deriving Repr

/-- Flags at the start of a pattern. -/
def Flags.initial : Flags := ⟨false, false, false, false⟩

/-- Go past white space and comments when they are to be skipped. -/
def skipSpace (f : Flags) : List Char → List Char
  | [] => []
  | c :: rest =>
    if !f.spaced then c :: rest
    else if Text.blank c then skipSpace f rest
    else if c = '#' then
      skipComment f rest
    else c :: rest
where
  /-- Go past a comment and what is to be skipped after it. -/
  skipComment (f : Flags) : List Char → List Char
    | [] => []
    | c :: rest => if c = '\n' then skipSpace f rest else skipComment f rest

/-! ## Escapes -/

/-- What an escape stands for. -/
inductive Escape
  | literal (c : Char)
  | set (s : CharSet)
  | anchor (a : Anchor)

/-- Characters that mean something in patterns. -/
def special (c : Char) : Bool := "\\.+*?()|[]\x7b\x7d^$#&-~".toList.contains c

/-- Value of hexadecimal digits that name a character. -/
def hexChar (digits : List Char) : Option Char :=
  if digits.isEmpty then none
  else
    let value := digits.foldl (fun (n : Option Nat) c => do
      let n ← n
      if c.isDigit then return min 0x110000 (n * 16 + (c.toNat - '0'.toNat))
      else if 'a' ≤ c && c ≤ 'f' then return min 0x110000 (n * 16 + (c.toNat - 'a'.toNat + 10))
      else if 'A' ≤ c && c ≤ 'F' then return min 0x110000 (n * 16 + (c.toNat - 'A'.toNat + 10))
      else none) (some 0)
    match value with
    | some n => if n.isValidChar then some (Char.ofNat n) else none
    | none => none

/-- A character written with its code, `count` digits long when there are no braces. -/
def parseHex (count : Nat) : List Char → Option (Escape × List Char)
  | '\x7b' :: rest =>
    let digits := rest.takeWhile (· != '\x7d')
    match rest.dropWhile (· != '\x7d') with
    | _ :: rest => (hexChar digits).map fun c => (.literal c, rest)
    | [] => none
  | cs =>
    if cs.length < count then none
    else (hexChar (cs.take count)).map fun c => (.literal c, cs.drop count)

/-- A property name in lower case without separators. -/
def plainName (name : List Char) : String :=
  String.ofList ((name.filter fun c => !(c == ' ' || c == '_' || c == '-')).map Char.toLower)

/-- The set of a property, by one letter or in braces. -/
def parseProperty (f : Flags) (negated : Bool) : List Char → Option (Escape × List Char)
  | [] => none
  | c :: rest =>
    let found := if c = '\x7b' then
        let name := rest.takeWhile (· != '\x7d')
        match rest.dropWhile (· != '\x7d') with
        | _ :: rest =>
          let (inner, name) := match name with
            | '^' :: name => (true, name)
            | name => (false, name)
          let value := match (String.ofList name).splitOn "=" with
            | [kind, value] =>
              if ["generalcategory", "gc"].contains (plainName kind.toList) then value.toList else []
            | _ => name
          (CharSet.property? (plainName value)).map fun s =>
            (if inner then CharSet.complement s else s, rest)
        | [] => none
      else (CharSet.property? (plainName [c])).map fun s => (s, rest)
    found.map fun (s, rest) =>
      let s := if f.fold then CharSet.folded s else s
      (.set (if negated then .complement s else s), rest)

/-- Names of word boundaries in braces. -/
def boundaryNames : List (String × Anchor) :=
  [("start", .wordStart), ("end", .wordEnd), ("start-half", .wordStartHalf),
   ("end-half", .wordEndHalf)]

/-- Whether a character can be part of the name of a word boundary. -/
def boundaryChar (c : Char) : Bool := c.isAlpha || c == '-'

/-- A word boundary after its letter. A brace that cannot start a name is left to be read as a
repetition. -/
def parseBoundary : List Char → Option (Escape × List Char)
  | '\x7b' :: rest =>
    match rest.dropWhile Text.blank with
    | [] => none
    | c :: _ =>
      if boundaryChar c then
        let body := rest.dropWhile Text.blank
        let name := body.takeWhile boundaryChar
        match (body.dropWhile boundaryChar).dropWhile Text.blank with
        | '\x7d' :: rest =>
          (boundaryNames.lookup (String.ofList name)).map fun a => (.anchor a, rest)
        | _ => none
      else some (.anchor .wordBoundary, '\x7b' :: rest)
  | rest => some (.anchor .wordBoundary, rest)

/-- An escape after its backslash. -/
def parseEscape (f : Flags) : List Char → Option (Escape × List Char)
  | [] => none
  | c :: rest =>
    match c with
    | 'x' => parseHex 2 rest
    | 'u' => parseHex 4 rest
    | 'U' => parseHex 8 rest
    | 'p' => parseProperty f false rest
    | 'P' => parseProperty f true rest
    | 'd' => some (.set .digit, rest)
    | 'D' => some (.set (.complement .digit), rest)
    | 's' => some (.set .space, rest)
    | 'S' => some (.set (.complement .space), rest)
    | 'w' => some (.set .word, rest)
    | 'W' => some (.set (.complement .word), rest)
    | 'a' => some (.literal '\x07', rest)
    | 'f' => some (.literal '\x0c', rest)
    | 't' => some (.literal '\t', rest)
    | 'n' => some (.literal '\n', rest)
    | 'r' => some (.literal '\r', rest)
    | 'v' => some (.literal '\x0b', rest)
    | 'A' => some (.anchor .textStart, rest)
    | 'z' => some (.anchor .textEnd, rest)
    | 'b' => parseBoundary rest
    | 'B' => some (.anchor .noWordBoundary, rest)
    | '<' => some (.anchor .wordStart, rest)
    | '>' => some (.anchor .wordEnd, rest)
    | c =>
      if special c || (c.toNat < 128 && !c.isAlphanum) then some (.literal c, rest) else none

/-! ## Bracketed classes -/

/-- One character of a class, with its case variants when case is ignored. -/
def classChar (f : Flags) (s : CharSet) : CharSet := if f.fold then .folded s else s

/-- A class named between brackets and colons, after the opening bracket. -/
def parsePosix (f : Flags) : List Char → Option (CharSet × List Char)
  | ':' :: rest =>
    let (negated, rest) := match rest with
      | '^' :: rest => (true, rest)
      | rest => (false, rest)
    let name := rest.takeWhile (· != ':')
    match rest.dropWhile (· != ':') with
    | ':' :: ']' :: rest =>
      (CharSet.posix.lookup (String.ofList name)).map fun s =>
        let s := classChar f s
        (if negated then .complement s else s, rest)
    | _ => none
  | _ => none

/-- An item of a class: a character, or a set by an escape. -/
def parseClassItem (f : Flags) : List Char → Option (Escape × List Char)
  | [] => none
  | '\\' :: rest => parseEscape f rest
  | c :: rest => some (.literal c, rest)

/-- An item or a range of a class. -/
def parseClassRange (f : Flags) (cs : List Char) : Option (CharSet × List Char) := do
  let (first, rest) ← parseClassItem f cs
  let rest := skipSpace f rest
  let alone : Option (CharSet × List Char) := match first with
    | .literal c => some (classChar f (.single c), rest)
    | .set s => some (s, rest)
    | .anchor _ => none
  match rest with
  | [] => none
  | '-' :: after =>
    match skipSpace f after with
    | [] => alone
    | ']' :: _ => alone
    | '-' :: _ => alone
    | after =>
      let (last, rest) ← parseClassItem f after
      match first, last with
      | .literal a, .literal b => if a ≤ b then some (classChar f (.range a b), rest) else none
      | _, _ => none
  | _ => alone

/-- Operations between the parts of a class. -/
inductive SetOperation
  | intersection
  | difference
  | symmetric

/-- Apply an operation. -/
def SetOperation.apply : SetOperation → CharSet → CharSet → CharSet
  | intersection => .both
  | difference => .minus
  | symmetric => .either

/-- A class read in part: what the operations before made, the operation that waits, and the union
of the items after it. -/
structure ClassState where
  left : Option (CharSet × SetOperation)
  items : CharSet

/-- The set of the parts read so far. -/
def ClassState.value (s : ClassState) : CharSet :=
  match s.left with
  | some (left, op) => op.apply left s.items
  | none => s.items

/-- Read hyphens at the start of a class as themselves. -/
def leadingHyphens (f : Flags) (items : CharSet) : List Char → CharSet × List Char
  | '-' :: rest => leadingHyphens f (.union items (classChar f (.single '-'))) rest
  | rest => (items, rest)

mutual

/-- Read a class after its opening bracket. -/
def parseClass : Nat → Flags → List Char → Option (CharSet × List Char)
  | 0, _, _ => none
  | fuel + 1, f, cs =>
    let cs := skipSpace f cs
    let (negated, cs) := match cs with
      | '^' :: rest => (true, skipSpace f rest)
      | cs => (false, cs)
    let hyphen := cs.head? == some '-'
    let (items, cs) := leadingHyphens f .none cs
    let (items, cs) := match cs with
      | ']' :: rest =>
        if hyphen then (items, cs) else (.union items (classChar f (.single ']')), rest)
      | cs => (items, cs)
    (parseClassItems fuel f ⟨none, items⟩ cs).map fun (s, rest) =>
      (if negated then .complement s else s, rest)

/-- Read the items of a class and its closing bracket. -/
def parseClassItems : Nat → Flags → ClassState → List Char → Option (CharSet × List Char)
  | 0, _, _, _ => none
  | fuel + 1, f, s, cs =>
    match skipSpace f cs with
    | [] => none
    | ']' :: rest => some (s.value, rest)
    | '[' :: rest =>
      match parsePosix f rest with
      | some (more, rest) => parseClassItems fuel f { s with items := .union s.items more } rest
      | none => do
        let (more, rest) ← parseClass fuel f rest
        parseClassItems fuel f { s with items := .union s.items more } rest
    | '&' :: '&' :: rest => parseClassItems fuel f ⟨some (s.value, .intersection), .none⟩ rest
    | '-' :: '-' :: rest => parseClassItems fuel f ⟨some (s.value, .difference), .none⟩ rest
    | '~' :: '~' :: rest => parseClassItems fuel f ⟨some (s.value, .symmetric), .none⟩ rest
    | cs => do
      let (more, rest) ← parseClassRange f cs
      parseClassItems fuel f { s with items := .union s.items more } rest

end

/-! ## Repetitions -/

/-- A number of repetitions. -/
def parseCount (cs : List Char) : Option Nat × List Char :=
  let cs := cs.dropWhile Text.blank
  let digits := cs.takeWhile Char.isDigit
  let rest := (cs.dropWhile Char.isDigit).dropWhile Text.blank
  let value := digits.foldl (fun n c => min (Number.twoTo 32) (n * 10 + (c.toNat - '0'.toNat))) 0
  (if digits.isEmpty || Number.twoTo 32 ≤ value then none else some value, rest)

/-- Go past the mark of a lazy repetition. -/
def skipLazy (f : Flags) (cs : List Char) : List Char :=
  match skipSpace f cs with
  | '?' :: rest => rest
  | _ => cs

/-- Bounds of a counted repetition, after its opening brace. -/
def parseBounds (f : Flags) (cs : List Char) : Option (Nat × Option Nat × List Char) := do
  let (least, rest) := parseCount (skipSpace f cs)
  match rest with
  | ',' :: rest =>
    match skipSpace f rest with
    | '\x7d' :: rest =>
      let least ← least
      return (least, none, skipLazy f rest)
    | rest =>
      let least ← least
      let (most, rest) := parseCount rest
      let most ← most
      match rest with
      | '\x7d' :: rest => if least ≤ most then some (least, some (most - least), skipLazy f rest) else none
      | _ => none
  | '\x7d' :: rest =>
    let least ← least
    return (least, some 0, skipLazy f rest)
  | _ => none

/-! ## Groups -/

/-- Flags between a question mark and a colon or parenthesis, `seen` being those already read. -/
def parseFlags (f : Flags) (negated : Bool) (seen : List Char) :
    List Char → Option (Flags × Char × List Char)
  | [] => none
  | c :: rest =>
    if c = ':' || c = ')' then
      if seen.head? = some '-' then none else some (f, c, rest)
    else if seen.contains c then none
    else
      let on := !negated
      match c with
      | '-' => parseFlags f true (c :: seen) rest
      | 'i' => parseFlags { f with fold := on } negated (c :: seen) rest
      | 'm' => parseFlags { f with lines := on } negated (c :: seen) rest
      | 's' => parseFlags { f with dotAll := on } negated (c :: seen) rest
      | 'x' => parseFlags { f with spaced := on } negated (c :: seen) rest
      | 'U' => parseFlags f negated (c :: seen) rest
      | 'u' => parseFlags f negated (c :: seen) rest
      | 'R' => parseFlags f negated (c :: seen) rest
      | _ => none

/-- Characters of the name of a group. -/
def groupNameChar (first : Bool) (c : Char) : Bool :=
  let letter := match Text.category c with
    | .Lu | .Ll | .Lt | .Lm | .Lo | .Nl => true
    | _ => false
  let number := match Text.category c with
    | .Nd | .No => true
    | _ => false
  c == '_' || letter || (!first && (number || c == '.' || c == '[' || c == ']'))

/-- The name of a group and its closing angle bracket. -/
def parseGroupName (names : List String) (cs : List Char) : Option (String × List Char) :=
  let name := cs.takeWhile (· != '>')
  match name, cs.dropWhile (· != '>') with
  | c :: others, _ :: rest =>
    let s := String.ofList name
    if groupNameChar true c && others.all (groupNameChar false) && !names.contains s then
      some (s, rest)
    else none
  | _, _ => none

/-- What opens a group: the flags inside it and the names of groups so far, or flags for the rest of
the group around it. -/
inductive Opening
  | group (f : Flags) (names : List String)
  | flags (f : Flags)

/-- Read what follows an opening parenthesis. -/
def parseOpening (f : Flags) (names : List String) (cs : List Char) :
    Option (Opening × List Char) :=
  match skipSpace f cs with
  | '?' :: '=' :: _ => none
  | '?' :: '!' :: _ => none
  | '?' :: '<' :: '=' :: _ => none
  | '?' :: '<' :: '!' :: _ => none
  | '?' :: 'P' :: '<' :: rest =>
    (parseGroupName names rest).map fun (name, rest) => (.group f (name :: names), rest)
  | '?' :: '<' :: rest =>
    (parseGroupName names rest).map fun (name, rest) => (.group f (name :: names), rest)
  | '?' :: rest =>
    match parseFlags f false [] rest with
    | some (inner, ':', rest) => some (.group inner names, rest)
    | some (inner, _, after) =>
      if rest.head? = some ')' then none else some (.flags inner, after)
    | none => none
  | rest => some (.group f names, rest)

/-! ## Patterns -/

/-- The part of a pattern that is being read: alternatives that are complete, and the items of the
current one, last item first. An item without pattern is a setting of flags. -/
structure Branch where
  alternatives : Option Pattern
  items : List (Option Pattern)

/-- No item yet. -/
def Branch.start : Branch := ⟨none, []⟩

/-- Add an item. -/
def Branch.push (b : Branch) (p : Pattern) : Branch := { b with items := some p :: b.items }

/-- The items in a row. -/
def Branch.row (b : Branch) : Pattern :=
  b.items.foldl (fun p item => match item with
    | some q => match p with
      | .empty => q
      | p => .seq q p
    | none => p) .empty

/-- The alternatives with the current one. -/
def Branch.value (b : Branch) : Pattern :=
  match b.alternatives with
  | some p => .alt p b.row
  | none => b.row

/-- Complete the current alternative. -/
def Branch.next (b : Branch) : Branch := ⟨some b.value, []⟩

/-- Repeat the last item; there must be one that is no setting of flags. -/
def Branch.repeatLast (b : Branch) (least : Nat) (extra : Option Nat) : Option Branch :=
  match b.items with
  | some p :: rest => some { b with items := some (.repeated p least extra) :: rest }
  | _ => none

/-- Pattern of an escape. -/
def Escape.pattern (f : Flags) : Escape → Pattern
  | .literal c => .set (classChar f (.single c))
  | .set s => .set s
  | .anchor a => .anchor a

/-- Read items up to a closing parenthesis, which is left, or the end of the text. -/
def parseItems : Nat → Flags → List String → Branch → List Char →
    Option (Pattern × List String × List Char)
  | 0, _, _, _, _ => none
  | fuel + 1, f, names, b, cs =>
    match skipSpace f cs with
    | [] => some (b.value, names, [])
    | ')' :: rest => some (b.value, names, ')' :: rest)
    | '|' :: rest => parseItems fuel f names b.next rest
    | '(' :: rest => do
      let (opening, rest) ← parseOpening f names rest
      match opening with
      | .flags g => parseItems fuel g names { b with items := none :: b.items } rest
      | .group g names =>
        let (p, names, rest) ← parseItems fuel g names .start rest
        match rest with
        | ')' :: rest => parseItems fuel f names (b.push p) rest
        | _ => none
    | '[' :: rest => do
      let (s, rest) ← parseClass fuel f rest
      parseItems fuel f names (b.push (.set s)) rest
    | '?' :: rest => do parseItems fuel f names (← b.repeatLast 0 (some 1)) (skipLazy f rest)
    | '*' :: rest => do parseItems fuel f names (← b.repeatLast 0 none) (skipLazy f rest)
    | '+' :: rest => do parseItems fuel f names (← b.repeatLast 1 none) (skipLazy f rest)
    | '\x7b' :: rest => do
      let (least, extra, rest) ← parseBounds f rest
      parseItems fuel f names (← b.repeatLast least extra) rest
    | '\\' :: rest => do
      let (e, rest) ← parseEscape f rest
      parseItems fuel f names (b.push (e.pattern f)) rest
    | '.' :: rest =>
      let s := if f.dotAll then CharSet.all else .complement (.single '\n')
      parseItems fuel f names (b.push (.set s)) rest
    | '^' :: rest =>
      parseItems fuel f names (b.push (.anchor (if f.lines then .lineStart else .textStart))) rest
    | '$' :: rest =>
      parseItems fuel f names (b.push (.anchor (if f.lines then .lineEnd else .textEnd))) rest
    | c :: rest => parseItems fuel f names (b.push (.set (classChar f (.single c)))) rest

/-- Largest size of a pattern. -/
def maxSize : Nat := 200000

/-- Read a pattern; nothing when it is malformed or too large. -/
def parse (text : String) : Option Pattern :=
  let cs := text.toList
  match parseItems (2 * cs.length + 2) .initial [] .start cs with
  | some (p, _, []) => if p.size ≤ maxSize then some p else none
  | _ => none

end Pattern

end CollectionRunner
