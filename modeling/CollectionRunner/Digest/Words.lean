/-!
# Messages as words

Digests work on messages that are padded to whole blocks: a one bit, zeros, and the number of bits
of the message.
-/

namespace CollectionRunner.Digest

/-- The bytes of a number, highest first. -/
def bytesBig (count n : Nat) : List UInt8 :=
  (List.range count).reverse.map fun i => UInt8.ofNat (n >>> (8 * i))

/-- The bytes of a number, lowest first. -/
def bytesLittle (count n : Nat) : List UInt8 := (bytesBig count n).reverse

/-- The number of some bytes, highest first. -/
def ofBytesBig (bytes : List UInt8) : Nat := bytes.foldl (fun n b => n * 256 + b.toNat) 0

/-- The number of some bytes, lowest first. -/
def ofBytesLittle (bytes : List UInt8) : Nat := ofBytesBig bytes.reverse

/-- Cut a list into parts of `size`, at most `count` of them. -/
def parts (size : Nat) : Nat → List α → List (List α)
  | 0, _ => []
  | count + 1, l => l.take size :: parts size count (l.drop size)

/-- A message in blocks of `block` bytes, of which the last ends with the number of bits. -/
def blocks (block : Nat) (lengthBytes : List UInt8) (message : List UInt8) : List (List UInt8) :=
  let used := message.length + 1 + lengthBytes.length
  let count := (used + block - 1) / block
  let zeros := List.replicate (count * block - used) 0
  parts block count (message ++ 0x80 :: zeros ++ lengthBytes)

/-- Two hexadecimal digits a byte, in lower case. -/
def hex (bytes : List UInt8) : String :=
  String.ofList (bytes.flatMap fun b =>
    [Nat.digitChar (b.toNat / 16), Nat.digitChar (b.toNat % 16)])

end CollectionRunner.Digest
