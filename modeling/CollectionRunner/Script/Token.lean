import CollectionRunner.Script.Failure

/-!
# Tokens of scripts

The words, signs and literals a script is made of. A token that cannot be read stands in the list of
tokens as what is wrong with it; it is reported if the parser gets that far.
-/

namespace CollectionRunner

/-- What is wrong with a token. -/
inductive TokenFault
  | unexpected (text : String)
  | unterminated
  | badEscape (text : String)
  | badNumber (text : String)
  | badCharacter (text : String)
  | badName (text : String)
  /-- A sign of another language, with advice. -/
  | foreign (advice : String)
  deriving DecidableEq, Repr, Inhabited

/-- What is wrong, in words. -/
def TokenFault.text : TokenFault → String
  | unexpected text => s!"Unexpected '{text}'"
  | unterminated => "Open string is not terminated"
  | badEscape text => s!"Invalid escape sequence: '{text}'"
  | badNumber text => s!"Invalid number: '{text}'"
  | badCharacter text => s!"Invalid character: '{text}'"
  | badName text => s!"Variable name is not proper: '{text}'"
  | foreign advice => advice

/-- A token of a script. -/
inductive Token
  | int (i : Int64)
  | float (x : Float)
  | char (c : Char)
  | text (s : String)
  /-- A text that goes on after a block. -/
  | opened (s : String)
  | name (s : String)
  /-- An operator, a bracket or a keyword. -/
  | sign (s : String)
  /-- A word or sign that is set aside. -/
  | reserved (s : String)
  | bad (fault : TokenFault)
  | ending
  deriving Repr, Inhabited

/-- A token and the place where it starts. -/
structure Lexeme where
  token : Token
  place : Position
  deriving Repr, Inhabited

namespace Token

/-! ## Words -/

/-- Words that are keywords. -/
def keywords : List String :=
  ["true", "false", "let", "const", "if", "else", "switch", "do", "while", "until", "loop", "for",
   "in", "continue", "break", "return", "throw", "try", "catch", "fn", "private", "import",
   "export", "as", "_"]

/-- Words that name no variable. -/
def reservedWords : List String :=
  ["var", "static", "shared", "with", "is", "goto", "match", "case", "default", "void", "null",
   "nil", "spawn", "thread", "go", "sync", "async", "await", "yield", "public", "protected",
   "super", "new", "use", "module", "package", "each", "then", "unless", "print", "debug",
   "type_of", "Fn", "call", "curry", "this", "is_shared", "is_def_var", "is_def_fn"]

/-- Reserved words that can be called as functions. -/
def functionWords : List String :=
  ["print", "debug", "type_of", "Fn", "call", "curry", "is_shared", "is_def_var", "is_def_fn"]

/-- Reserved words that can be called as methods. -/
def methodWords : List String := ["print", "debug", "type_of", "call", "curry", "is_shared"]

/-- Advice about words and signs of other languages. -/
def advice : List (String × String) :=
  [("===", "'===' is not a valid operator. This is not JavaScript! Should it be '=='?"),
   ("!==", "'!==' is not a valid operator. This is not JavaScript! Should it be '!='?"),
   ("->", "'->' is not a valid symbol. This is not C or C++!"),
   ("<-", "'<-' is not a valid symbol. This is not Go! Should it be '<='?"),
   (":=",
    "':=' is not a valid assignment operator. This is not Go or Pascal! Should it be simply '='?"),
   (":;", "':;' is not a valid symbol. Should it be '::'?"),
   ("::<", "'::<>' is not a valid symbol. This is not Rust! Should it be '::'?"),
   ("(*", "'(* .. *)' is not a valid comment format. This is not Pascal! Should it be '/* .. */'?"),
   ("*)", "'(* .. *)' is not a valid comment format. This is not Pascal! Should it be '/* .. */'?"),
   ("begin",
    "'(* .. *)' is not a valid comment format. This is not Pascal! Should it be '/* .. */'?"),
   ("end", "'(* .. *)' is not a valid comment format. This is not Pascal! Should it be '/* .. */'?"),
   ("#", "'#' is not a valid symbol. Should it be '#\x7b'?"),
   ("eval", "reserved keyword 'eval' is disabled")]

/-- Whether a name has a letter before its first digit. -/
def properName (cs : List Char) : Bool :=
  match cs.dropWhile (· == '_') with
  | c :: _ => c.isAlpha
  | [] => false

/-- The token of a word. -/
def ofWord (cs : List Char) : Token :=
  let s := String.ofList cs
  match advice.lookup s with
  | some hint => .bad (.foreign hint)
  | none =>
    if keywords.contains s then .sign s
    else if reservedWords.contains s then .reserved s
    else if properName cs then .name s
    else .bad (.badName s)

/-- Whether a text can be the name of a function. -/
def isFunctionName (s : String) : Bool :=
  let cs := s.toList
  cs.all (fun c => c.isAlphanum || c == '_') &&
    match ofWord cs with
    | name _ => true
    | _ => false

/-! ## Signs -/

/-- Signs of the language, longer ones before their beginnings. -/
def signs : List String :=
  ["**=", "..=", "<<=", ">>=", "+=", "-=", "*=", "/=", "%=", "**", "<<", ">>", "&=", "|=", "^=",
   "&&", "||", "!=", "==", "<=", ">=", "::", "..", "?.", "?[", "??", "=>", "#\x7b", "()", "\x7b",
   "\x7d", "(", ")", "[", "]", "+", "-", "*", "/", "%", "&", "|", "^", "!", "<", ">", "=", ";", ":",
   ",", "."]

/-- Signs that mean nothing but are read as one. -/
def reservedSigns : List String :=
  ["===", "!==", "::<", "...", "++", "--", "(*", "*)", "->", "<-", ":=", ":;", "<|", "|>", "!.",
   "#!", "#", "~", "@", "$", "?"]

/-- The longest of the signs that a text starts with. -/
def longestSign (cs : List Char) : Option String :=
  let fits := (signs ++ reservedSigns).filter fun s => s.toList.isPrefixOf cs
  fits.foldl (fun best s =>
    match best with
    | some b => if b.length < s.length then some s else best
    | none => some s) none

/-- The token of a sign. -/
def ofSign (s : String) : Token :=
  match advice.lookup s with
  | some hint => .bad (.foreign hint)
  | none => if signs.contains s then .sign s else .reserved s

/-- Whether a minus before a digit belongs to the number when it follows this token. -/
def beforeOperand : Token → Bool
  | sign s =>
    [";", ":", ",", "..", "..=", "\x7b", "#\x7b", "(", "[", "?[", "+", "+=", "-", "-=", "*", "*=", "/",
     "/=", "%", "%=", "**", "**=", "<<", "<<=", ">>", ">>=", "=", "==", "!=", "<", ">", "<=", ">=",
     "!", "|", "|=", "||", "&", "&=", "&&", "^", "^=", "??", "if", "do", "while", "until", "in",
     "!in", "return", "throw"].contains s
  | bad _ => true
  | _ => false

end Token

end CollectionRunner
