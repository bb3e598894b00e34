import CollectionRunner.Digest.Md5
import CollectionRunner.Digest.Sha2
import CollectionRunner.Random
import CollectionRunner.Script.Native
import CollectionRunner.Text.Base64

/-!
# Functions in namespaces

Encodings, digests and random values. Their failures carry no place.
-/

namespace CollectionRunner.Native

/-! ## Encodings and digests -/

/-- Functions of encodings. -/
def base64 : List (String × Native) :=
  [("encode", fun _ => fun
    | [.text s] => give (.text (Base64.encodeText s))
    | _ => none),
   ("decode", fun _ => fun
    | [.text s] =>
      match Base64.decodeText s with
      | .ok t => give (.text t)
      | .error f => some (Eval.refuse ("invalid base64 input: " ++ f.text))
    | _ => none)]

/-- A function of the bytes of a text that gives bytes. -/
def digest (f : List UInt8 → List UInt8) : Native := fun _ => fun
  | [.text s] => give (.text (Digest.hex (f (Text.bytes s))))
  | _ => none

/-- A function of the bytes of a key and a text that gives bytes. -/
def keyedDigest (f : List UInt8 → List UInt8 → List UInt8) : Native := fun _ => fun
  | [.text key, .text s] => give (.text (Digest.hex (f (Text.bytes key) (Text.bytes s))))
  | _ => none

/-- Functions that digest. -/
def crypto : List (String × Native) :=
  [("md5", digest Digest.Md5.digest),
   ("sha256", digest Digest.sha256.digest),
   ("sha512", digest Digest.sha512.digest),
   ("hmacSha256", keyedDigest Digest.sha256.authenticate),
   ("hmacSha512", keyedDigest Digest.sha512.authenticate)]

/-! ## Random values -/

/-- Draw some words. -/
def draw (n : Nat) : Eval (List UInt64) := do
  let (words, seed) := Random.words n (← Eval.frame).seed
  Eval.modifyFrame fun f => { f with seed }
  return words

/-- Give what is made of one random word. -/
def giveRandom (f : UInt64 → Datum) : Option (Eval Given) :=
  giveFrom do return f ((← draw 1).headD 0)

/-- Give what is made of two random words. -/
def giveRandomText (f : UInt64 → UInt64 → String) : Option (Eval Given) :=
  giveFrom do
    let words ← draw 2
    return .text (f (words.getD 0 0) (words.getD 1 0))

/-- Give a random integer between two bounds. -/
def giveInteger (a b : Int) : Option (Eval Given) :=
  giveRandom fun w => .int (Int64.ofInt (Random.between a b w))

/-- Give a random double between two bounds. -/
def giveDouble (a b : Float) : Option (Eval Given) :=
  giveFrom do
    match Random.floatBetween a b ((← draw 1).headD 0) with
    | some x => return .float x
    | none =>
      let bounds := Number.plainText a ++ " and " ++ Number.plainText b
      Eval.refuse ("random::float bounds must be finite, got " ++ bounds)

/-- Longest random text. -/
def maxRandomLength : Nat := 65536

/-- Give a random text of some length. -/
def giveString (n : Nat) : Option (Eval Given) :=
  giveFrom do
    if maxRandomLength < n then
      Eval.refuse s!"random::string length must be at most {maxRandomLength}, got {n}"
    else return .text (Random.string (← draw n))

/-- Functions that draw random values or tell the time. -/
def random : List (String × Native) :=
  [("uuid", fun _ => fun
    | [] => giveRandomText Random.identifier
    | _ => none),
   ("timestamp", fun caller => fun
    | [] => give (.int (Int64.ofInt caller.surroundings.now.seconds))
    | _ => none),
   ("isoTimestamp", fun caller => fun
    | [] => give (.text caller.surroundings.now.millisecondText)
    | _ => none),
   ("int", fun _ => fun
    | [] => giveInteger 0 1000
    | [.int a, .int b] => giveInteger a.toInt b.toInt
    | _ => none),
   ("float", fun _ => fun
    | [] => giveDouble 0.0 1.0
    | [.float a, .float b] => giveDouble a b
    | _ => none),
   ("string", fun _ => fun
    | [] => giveString 10
    | [.int n] => giveString n.toInt.toNat
    | _ => none),
   ("name", fun _ => fun
    | [] => giveRandomText (Random.name "-")
    | _ => none),
   ("bool", fun _ => fun
    | [] => giveRandom fun w => .bool (w.toNat % 2 == 1)
    | _ => none),
   ("email", fun _ => fun
    | [] => giveRandomText fun a b => Random.name "." a b ++ "@example.com"
    | _ => none)]

/-- The functions of a namespace. -/
def namespace? : String → Option (List (String × Native))
  | "base64" => some base64
  | "crypto" => some crypto
  | "random" => some random
  | _ => none

end CollectionRunner.Native
