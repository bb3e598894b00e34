import CollectionRunner.Text.Blank
import CollectionRunner.Text.Letters

/-!
# Sets of characters

The sets that patterns are made of: ranges, the named classes, and what can be built from them.
-/

namespace CollectionRunner

/-- A set of characters. -/
inductive CharSet
  | range (first last : Char)
  | digit
  | space
  | word
  | categories (list : List Text.Category)
  | none
  | union (a b : CharSet)
  | both (a b : CharSet)
  | complement (a : CharSet)
  /-- The characters that equal one of the set ignoring case. -/
  | folded (a : CharSet)
  deriving Repr, Inhabited

namespace CharSet

/-- Whether a character is in the set. -/
def holds : CharSet → Char → Bool
  | range first last, c => first ≤ c && c ≤ last
  | digit, c => Text.category c == .Nd
  | space, c => Text.blank c
  | word, c => Text.wordPart c
  | categories list, c => list.contains (Text.category c)
  | none, _ => false
  | union a b, c => a.holds c || b.holds c
  | both a b, c => a.holds c && b.holds c
  | complement a, c => !a.holds c
  | folded a, c => (Text.caseVariants c).any a.holds

/-- All characters. -/
def all : CharSet := complement none

/-- One character. -/
def single (c : Char) : CharSet := range c c

/-- Characters in one set but not in the other. -/
def minus (a b : CharSet) : CharSet := both a (complement b)

/-- Characters in exactly one of two sets. -/
def either (a b : CharSet) : CharSet := union (minus a b) (minus b a)

/-- Ranges of ASCII characters. -/
def ascii (ranges : List (Char × Char)) : CharSet :=
  ranges.foldr (fun (first, last) set => union (range first last) set) none

/-- The classes named between brackets and colons. -/
def posix : List (String × CharSet) :=
  [("alnum", ascii [('0', '9'), ('A', 'Z'), ('a', 'z')]),
   ("alpha", ascii [('A', 'Z'), ('a', 'z')]),
   ("ascii", ascii [('\x00', '\x7f')]),
   ("blank", ascii [('\t', '\t'), (' ', ' ')]),
   ("cntrl", ascii [('\x00', '\x1f'), ('\x7f', '\x7f')]),
   ("digit", ascii [('0', '9')]),
   ("graph", ascii [('!', '~')]),
   ("lower", ascii [('a', 'z')]),
   ("print", ascii [(' ', '~')]),
   ("punct", ascii [('!', '/'), (':', '@'), ('[', '\x60'), ('\x7b', '~')]),
   ("space", ascii [('\t', '\r'), (' ', ' ')]),
   ("upper", ascii [('A', 'Z')]),
   ("word", ascii [('0', '9'), ('A', 'Z'), ('_', '_'), ('a', 'z')]),
   ("xdigit", ascii [('0', '9'), ('A', 'F'), ('a', 'f')])]

/-- Names of categories and of groups of them, in lower case without separators. -/
def categoryNames : List (String × List Text.Category) :=
  [("l", [.Lu, .Ll, .Lt, .Lm, .Lo]), ("letter", [.Lu, .Ll, .Lt, .Lm, .Lo]),
   ("lc", [.Lu, .Ll, .Lt]), ("casedletter", [.Lu, .Ll, .Lt]),
   ("lu", [.Lu]), ("uppercaseletter", [.Lu]), ("ll", [.Ll]), ("lowercaseletter", [.Ll]),
   ("lt", [.Lt]), ("titlecaseletter", [.Lt]), ("lm", [.Lm]), ("modifierletter", [.Lm]),
   ("lo", [.Lo]), ("otherletter", [.Lo]),
   ("m", [.Mn, .Mc, .Me]), ("mark", [.Mn, .Mc, .Me]), ("combiningmark", [.Mn, .Mc, .Me]),
   ("mn", [.Mn]), ("nonspacingmark", [.Mn]), ("mc", [.Mc]), ("spacingmark", [.Mc]),
   ("me", [.Me]), ("enclosingmark", [.Me]),
   ("n", [.Nd, .Nl, .No]), ("number", [.Nd, .Nl, .No]),
   ("nd", [.Nd]), ("decimalnumber", [.Nd]), ("digit", [.Nd]), ("nl", [.Nl]),
   ("letternumber", [.Nl]), ("no", [.No]), ("othernumber", [.No]),
   ("p", [.Pc, .Pd, .Ps, .Pe, .Pi, .Pf, .Po]), ("punctuation", [.Pc, .Pd, .Ps, .Pe, .Pi, .Pf, .Po]),
   ("punct", [.Pc, .Pd, .Ps, .Pe, .Pi, .Pf, .Po]),
   ("pc", [.Pc]), ("connectorpunctuation", [.Pc]), ("pd", [.Pd]), ("dashpunctuation", [.Pd]),
   ("ps", [.Ps]), ("openpunctuation", [.Ps]), ("pe", [.Pe]), ("closepunctuation", [.Pe]),
   ("pi", [.Pi]), ("initialpunctuation", [.Pi]), ("pf", [.Pf]), ("finalpunctuation", [.Pf]),
   ("po", [.Po]), ("otherpunctuation", [.Po]),
   ("s", [.Sm, .Sc, .Sk, .So]), ("symbol", [.Sm, .Sc, .Sk, .So]),
   ("sm", [.Sm]), ("mathsymbol", [.Sm]), ("sc", [.Sc]), ("currencysymbol", [.Sc]),
   ("sk", [.Sk]), ("modifiersymbol", [.Sk]), ("so", [.So]), ("othersymbol", [.So]),
   ("z", [.Zs, .Zl, .Zp]), ("separator", [.Zs, .Zl, .Zp]), ("zs", [.Zs]), ("spaceseparator", [.Zs]),
   ("zl", [.Zl]), ("lineseparator", [.Zl]), ("zp", [.Zp]), ("paragraphseparator", [.Zp]),
   ("c", [.Cc, .Cf, .Cs, .Co, .Cn]), ("other", [.Cc, .Cf, .Cs, .Co, .Cn]),
   ("cc", [.Cc]), ("control", [.Cc]), ("cntrl", [.Cc]), ("cf", [.Cf]), ("format", [.Cf]),
   ("co", [.Co]), ("privateuse", [.Co]), ("cn", [.Cn]), ("unassigned", [.Cn])]

/-- The set a property name stands for. -/
def property? (name : String) : Option CharSet :=
  match categoryNames.lookup name with
  | some list => some (categories list)
  | Option.none =>
    match name with
    | "any" => some all
    | "assigned" => some (complement (categories [.Cn]))
    | "ascii" => some (range '\x00' '\x7f')
    | "alphabetic" | "alpha" =>
      some (union (categories [.Lu, .Ll, .Lt, .Lm, .Lo, .Nl])
        (minus word (categories [.Mn, .Mc, .Me, .Nd, .Pc, .Cf])))
    | "whitespace" | "wspace" | "space" => some space
    | "uppercase" | "upper" => some (categories [.Lu])
    | "lowercase" | "lower" => some (categories [.Ll])
    | _ => Option.none

end CharSet

end CollectionRunner
