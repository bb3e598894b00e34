import CollectionRunner.Http.Query
import CollectionRunner.Number.Power
import CollectionRunner.Text.Letters

/-!
# Addresses

`fault?` says what is wrong with an address that is not relative to another one: whether it names a
scheme, and whether the host and the port after it can be read.
-/

namespace CollectionRunner.Url

/-- What is wrong with an address. -/
inductive Fault
  | relative
  | emptyHost
  | internationalName
  | domainCharacter
  | port
  | ipv4
  | ipv6
  deriving DecidableEq, Repr

/-- The fault in words. -/
def Fault.text : Fault → String
  | relative => "relative URL without a base"
  | emptyHost => "empty host"
  | internationalName => "invalid international domain name"
  | domainCharacter => "invalid domain character"
  | port => "invalid port number"
  | ipv4 => "invalid IPv4 address"
  | ipv6 => "invalid IPv6 address"

/-- How the part after a scheme is read. -/
inductive Scheme
  | file
  | special
  | other
  deriving DecidableEq, Repr

/-- Kind of a scheme. -/
def Scheme.of (name : String) : Scheme :=
  if name == "file" then .file
  else if ["http", "https", "ws", "wss", "ftp"].contains name then .special
  else .other

/-- An address without the control characters and blanks around it and the breaks inside it. -/
def cleaned (url : String) : List Char :=
  let outer := fun c : Char => c.toNat ≤ 0x20
  let cs := ((url.toList.dropWhile outer).reverse.dropWhile outer).reverse
  cs.filter fun c => !(c == '\t' || c == '\n' || c == '\r')

/-- The scheme in lower case and what follows its colon. -/
def splitScheme (cs : List Char) : Option (String × List Char) :=
  match cs with
  | [] => none
  | c :: _ =>
    if c.isAlpha then
      let name := cs.takeWhile fun c => c.isAlphanum || c == '+' || c == '-' || c == '.'
      match cs.drop name.length with
      | ':' :: rest => some (String.ofList (name.map Char.toLower), rest)
      | _ => none
    else none

/-- Whether a character ends the host and port. -/
def endsAuthority (scheme : Scheme) (c : Char) : Bool :=
  c == '/' || c == '?' || c == '#' || (scheme != .other && c == '\\')

/-! ## Numbers as hosts -/

/-- Value of a number of an address of four parts: octal and hexadecimal by their starts. -/
def ipv4Number (digits : List Char) : Option Nat :=
  let (base, digits) := match digits with
    | '0' :: 'x' :: rest => (16, rest)
    | '0' :: 'X' :: rest => (16, rest)
    | '0' :: d :: rest => (8, d :: rest)
    | digits => (10, digits)
  digits.foldl (fun (n : Option Nat) c => do
    let n ← n
    let d ← Query.hexDigit (UInt8.ofNat (min c.toNat 255))
    if d.toNat < base then return min (Number.twoTo 40) (n * base + d.toNat) else none) (some 0)

/-- Parts between dots, an empty last one left out. -/
def dotParts (domain : List Char) : List (List Char) :=
  let parts := Query.splitAll '.' domain
  match parts.getLast? with
  | some [] => if 1 < parts.length then parts.dropLast else parts
  | _ => parts

/-- Whether the last part of a name is a number, so that the whole must be an address. -/
def endsInNumber (domain : List Char) : Bool :=
  match (dotParts domain).getLast? with
  | some (c :: rest) =>
    (c :: rest).all Char.isDigit ||
      (match c :: rest with
        | '0' :: x :: _ => (x == 'x' || x == 'X') && (ipv4Number (c :: rest)).isSome
        | _ => false)
  | _ => false

/-- Whether a name of numbers is an address of four bytes. -/
def ipv4Valid (domain : List Char) : Bool :=
  let parts := dotParts domain
  if 4 < parts.length || parts.any List.isEmpty then false
  else
    match (parts.map ipv4Number).reverse with
    | some last :: others =>
      (others.all fun n => match n with | some n => n ≤ 255 | none => false) &&
        last < Number.twoTo (8 * (5 - parts.length))
    | _ => false

/-- Whether a part is up to four hexadecimal digits. -/
def ipv6Piece (part : List Char) : Bool :=
  !part.isEmpty && part.length ≤ 4 && part.all fun c =>
    c.isDigit || ('a' ≤ c && c ≤ 'f') || ('A' ≤ c && c ≤ 'F')

/-- Whether a part is four decimal bytes without needless zeros. -/
def dottedQuad (part : List Char) : Bool :=
  let parts := Query.splitAll '.' part
  parts.length == 4 && parts.all fun p =>
    !p.isEmpty && p.length ≤ 3 && p.all Char.isDigit && (p.length == 1 || p.head? != some '0') &&
      (p.foldl (fun n c => n * 10 + (c.toNat - '0'.toNat)) 0) ≤ 255

/-- Number of pieces that parts between colons stand for, the last of which may be a dotted quad. -/
def ipv6Pieces (final : Bool) : List (List Char) → Option Nat
  | [] => some 0
  | [part] =>
    if ipv6Piece part then some 1 else if final && dottedQuad part then some 2 else none
  | part :: rest => if ipv6Piece part then (ipv6Pieces final rest).map (· + 1) else none

/-- Split at the first pair of colons. -/
def splitDouble : List Char → Option (List Char × List Char)
  | ':' :: ':' :: rest => some ([], rest)
  | c :: rest => (splitDouble rest).map fun (a, b) => (c :: a, b)
  | [] => none

/-- Parts between colons, none of an empty text. -/
def colonParts (cs : List Char) : List (List Char) :=
  if cs.isEmpty then [] else Query.splitAll ':' cs

/-- Whether a text is an address of eight pieces, one pair of colons standing for missing zeros. -/
def ipv6Valid (cs : List Char) : Bool :=
  match splitDouble cs with
  | some (left, right) =>
    match ipv6Pieces false (colonParts left), ipv6Pieces true (colonParts right) with
    | some a, some b => a + b ≤ 7
    | _, _ => false
  | none => ipv6Pieces true (colonParts cs) == some 8

/-! ## Hosts -/

/-- ASCII characters no domain may have. -/
def forbiddenInDomain (c : Char) : Bool :=
  c.toNat ≤ 0x20 || c.toNat == 0x7f || "%#/:<>?@[\\]^|".toList.contains c

/-- Characters no opaque host may have. -/
def forbiddenInHost (c : Char) : Bool :=
  c == '\x00' || "\t\n\r #/:<>?@[\\]^|".toList.contains c

/-- Undo percent signs before hexadecimal digits. -/
def percentDecode : List UInt8 → List UInt8
  | [] => []
  | 0x25 :: a :: b :: rest =>
    match Query.hexDigit a, Query.hexDigit b with
    | some high, some low => (high * 16 + low) :: percentDecode rest
    | _, _ => 0x25 :: percentDecode (a :: b :: rest)
  | c :: rest => c :: percentDecode rest

/-- Check a host. -/
def hostFault (scheme : Scheme) (host : List Char) : Option Fault :=
  match host with
  | '[' :: rest =>
    match rest.reverse with
    | ']' :: inner => if ipv6Valid inner.reverse then none else some .ipv6
    | _ => some .ipv6
  | _ =>
    if scheme = .other then if host.any forbiddenInHost then some .domainCharacter else none
    else
      let domain := Text.lossy (percentDecode (Text.bytes (String.ofList host)))
      if domain.any fun c => c == Text.replacement || forbiddenInDomain c then
        some .internationalName
      else if domain.isEmpty then some .emptyHost
      else if endsInNumber domain then if ipv4Valid domain then none else some .ipv4
      else none

/-- Check a port and what ends it. -/
def portFault (value : Nat) : List Char → Option Fault
  | [] => none
  | c :: rest =>
    if c.isDigit then
      let value := value * 10 + (c.toNat - '0'.toNat)
      if 65535 < value then some .port else portFault value rest
    else if c == '/' || c == '\\' || c == '?' || c == '#' then none
    else some .port

/-- The host at the start of a text, and the rest. Colons in brackets belong to the host. -/
def splitHost (scheme : Scheme) : Bool → List Char → List Char × List Char
  | _, [] => ([], [])
  | bracketed, c :: rest =>
    if (c == ':' && !bracketed) || endsAuthority scheme c then ([], c :: rest)
    else
      let inside := if c == '[' then true else if c == ']' then false else bracketed
      let (host, rest) := splitHost scheme inside rest
      (c :: host, rest)

/-- What follows the last at sign of an authority, and the number of characters before it. -/
def afterUserInfo (scheme : Scheme) (cs : List Char) : Option (Nat × List Char) :=
  let authority := cs.takeWhile fun c => !endsAuthority scheme c
  let host := (authority.reverse.takeWhile (· != '@')).reverse
  if host.length = authority.length then none
  else
    let before := authority.length - host.length - 1
    some (before, cs.drop (before + 1))

/-- Check what follows the two slashes. -/
def authorityFault (scheme : Scheme) (cs : List Char) : Option Fault :=
  let (emptyUser, cs) := match afterUserInfo scheme cs with
    | some (0, rest) => (true, rest)
    | some (_, rest) => (false, rest)
    | none => (false, cs)
  if emptyUser && (match cs with | c :: _ => endsAuthority scheme c | [] => false) then
    some .emptyHost
  else
    let (host, rest) := splitHost scheme false cs
    if scheme = .special && host.isEmpty then some .emptyHost
    else
      match hostFault scheme host with
      | some fault => some fault
      | none =>
        match rest with
        | ':' :: port => if host.isEmpty then some .emptyHost else portFault 0 port
        | _ => none

/-- Check the address of a file. -/
def fileFault (cs : List Char) : Option Fault :=
  match cs with
  | a :: b :: rest =>
    if (a == '/' || a == '\\') && (b == '/' || b == '\\') then
      let host := rest.takeWhile fun c => !endsAuthority .file c
      let drive := match host with
        | [d, mark] => d.isAlpha && (mark == ':' || mark == '|')
        | _ => false
      if host.isEmpty || drive then none else hostFault .file host
    else none
  | _ => none

/-- What is wrong with an address. -/
def fault? (url : String) : Option Fault :=
  match splitScheme (cleaned url) with
  | none => some .relative
  | some (name, rest) =>
    match Scheme.of name with
    | .special => authorityFault .special (rest.dropWhile fun c => c == '/' || c == '\\')
    | .file => fileFault rest
    | .other =>
      match rest with
      | '/' :: '/' :: rest => authorityFault .other rest
      | _ => none

end CollectionRunner.Url
