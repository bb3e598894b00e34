import CollectionRunner.Script.Native
import CollectionRunner.Text.Letters

/-!
# Functions on texts

Places in texts count characters.
-/

namespace CollectionRunner.Native

/-- A list of characters as a text. -/
def ofChars (cs : List Char) : Datum := .text (String.ofList cs)

/-- Place of the first occurrence of `needle` in a text whose first character has place `n`. -/
def findFrom (needle : List Char) (n : Nat) : List Char → Option Nat
  | [] => if needle.isEmpty then some n else none
  | c :: rest =>
    if needle.isPrefixOf (c :: rest) then some n else findFrom needle (n + 1) rest

/-- Cut a text at the occurrences of `needle`, into at most `limit` parts. `skipped` characters still
belong to the last occurrence; `seen` is the current part, last character first. -/
def cut (needle : List Char) : Nat → Nat → List Char → List Char → List (List Char)
  | _, _, seen, [] => [seen.reverse]
  | limit, skipped + 1, seen, _ :: rest => cut needle limit skipped seen rest
  | limit, 0, seen, c :: rest =>
    if 1 < limit && needle.isPrefixOf (c :: rest) then
      seen.reverse :: cut needle (limit - 1) (needle.length - 1) [] rest
    else cut needle limit 0 (c :: seen) rest

/-- The parts of a text between the occurrences of another, at most `limit` of them. Between two
characters there is an occurrence of the empty text. -/
def parts (text needle : List Char) (limit : Nat) : List (List Char) :=
  if needle.isEmpty then
    let pieces := [] :: text.map (fun c => [c]) ++ [[]]
    if pieces.length ≤ limit then pieces
    else pieces.take (limit - 1) ++ [(pieces.drop (limit - 1)).flatten]
  else cut needle limit 0 [] text

/-- The words of a text, which white space separates. -/
def words (seen : List Char) : List Char → List (List Char)
  | [] => if seen.isEmpty then [] else [seen.reverse]
  | c :: rest =>
    if Text.blank c then
      if seen.isEmpty then words [] rest else seen.reverse :: words [] rest
    else words (c :: seen) rest

/-- A place to start at; places before the first are the first. -/
def startOf (size : Nat) (i : Int64) : Nat :=
  let i := i.toInt
  if i < 0 then (i + size).toNat else i.toNat

/-- Part of a text from a place on. -/
def excerpt (s : String) (start length : Int64) : Datum :=
  let cs := s.toList
  if length.toInt ≤ 0 then .text "" else ofChars ((cs.drop (startOf cs.length start)).take length.toInt.toNat)

/-- Part of a text that a range names. -/
def excerptOf (s : String) (first last : Int64) (inclusive : Bool) : Datum :=
  let first := if first < 0 then 0 else first
  let last := if inclusive then last + 1 else last
  excerpt s first (if last < first then 0 else last - first)

/-- Place of a part of a text, from a place on; minus one when there is none. -/
def indexFrom (s : String) (needle : List Char) (start : Int64) : Datum :=
  let cs := s.toList
  let n := startOf cs.length start
  if cs.isEmpty || (cs.length ≤ n && n != 0) then .int (-1)
  else
    match findFrom needle n (cs.drop n) with
    | some i => count i
    | none => .int (-1)

/-- The parts of a text as a list. -/
def partList (s : String) (needle : List Char) (limit : Nat) : Datum :=
  .list ((parts s.toList needle limit).map ofChars)

/-- Number that stands for no limit on the parts of a text. -/
def unlimited (s : String) : Nat := s.length + 2

/-- A text cut in two at a place. -/
def cutAt (s : String) (i : Int64) : Datum :=
  let cs := s.toList
  let n := startOf cs.length i
  .list [ofChars (cs.take n), ofChars (cs.drop n)]

/-- Whether a text occurs in another. -/
def occurs (s : String) (needle : List Char) : Datum :=
  .bool (findFrom needle 0 s.toList).isSome

/-- Whether a text ends with another. -/
def endsWith (s t : String) : Bool := t.toList.isSuffixOf s.toList

/-- Functions on texts. -/
def texts : List (String × Native) :=
  [("len", fun _ => fun
    | [.text s] => give (count s.length)
    | _ => none),
   ("to_upper", fun _ => fun
    | [.text s] => give (.text (Text.upper s))
    | [.char c] =>
      match Text.upperChar c with
      | [u] => give (.char u)
      | _ => give (.char c)
    | _ => none),
   ("to_lower", fun _ => fun
    | [.text s] => give (.text (Text.lower s))
    | [.char c] =>
      match (Text.lower c.toString).toList with
      | [l] => give (.char l)
      | _ => give (.char c)
    | _ => none),
   ("starts_with", fun _ => fun
    | [.text s, .text t] => give (.bool (t.toList.isPrefixOf s.toList))
    | _ => none),
   ("ends_with", fun _ => fun
    | [.text s, .text t] => give (.bool (endsWith s t))
    | _ => none),
   ("contains", fun _ => fun
    | [.text s, .text t] => give (occurs s t.toList)
    | [.text s, .char c] => give (occurs s [c])
    | _ => none),
   ("index_of", fun _ => fun
    | [.text s, .text t] => give (indexFrom s t.toList 0)
    | [.text s, .char c] => give (indexFrom s [c] 0)
    | [.text s, .text t, .int start] => give (indexFrom s t.toList start)
    | [.text s, .char c, .int start] => give (indexFrom s [c] start)
    | _ => none),
   ("sub_string", fun _ => fun
    | [.text s, .int start] => give (excerpt s start (Int64.ofNat s.utf8ByteSize))
    | [.text s, .int start, .int length] => give (excerpt s start length)
    | [.text s, .range first last inclusive] => give (excerptOf s first last inclusive)
    | _ => none),
   ("split", fun _ => fun
    | [.text s] => give (.list ((words [] s.toList).map ofChars))
    | [.text s, .int i] => give (cutAt s i)
    | [.text s, .text t] => give (partList s t.toList (unlimited s))
    | [.text s, .char c] => give (partList s [c] (unlimited s))
    | [.text s, .text t, .int n] => give (partList s t.toList n.toInt.toNat)
    | [.text s, .char c, .int n] => give (partList s [c] n.toInt.toNat)
    | _ => none),
   ("chars", fun _ => fun
    | [.text s] => give (.chars s.toList)
    | [.text s, .int start] => give (.chars (s.toList.drop (startOf s.length start)))
    | [.text s, .int start, .int n] =>
      give (.chars ((s.toList.drop (startOf s.length start)).take n.toInt.toNat))
    | _ => none)]

end CollectionRunner.Native
