import HandleChallenge.Bytes.Basic

/-!
# Signatures in DER

A pair of positive numbers as a DER sequence of two integers. Reading is strict: lengths and
integers in their shortest form, no negative integer, and nothing behind the sequence.
-/

namespace HandleChallenge.Signature.Der

/-- The tag of an integer. -/
def integerTag : UInt8 := 0x02

/-- The tag of a sequence. -/
def sequenceTag : UInt8 := 0x30

/-- The length bytes of an element. -/
def lengthBytes (n : Nat) : Bytes :=
  if n < 0x80 then [UInt8.ofNat n]
  else
    let digits := Bytes.minimal n
    UInt8.ofNat (0x80 + digits.length) :: digits

/-- An element: tag, length and contents. -/
def element (tag : UInt8) (contents : Bytes) : Bytes :=
  tag :: lengthBytes contents.length ++ contents

/-- A number as an integer, behind a zero byte where its first bit is set. -/
def integer (n : Nat) : Bytes :=
  let digits := Bytes.minimal n
  element integerTag (if digits.headD 0 < 0x80 then digits else 0 :: digits)

/-- The sequence of two numbers. -/
def encode (r s : Nat) : Bytes := element sequenceTag (integer r ++ integer s)

/-- The length at the front of a byte string, in its shortest form, and the rest. -/
def readLength? : Bytes → Option (Nat × Bytes)
  | [] => none
  | b :: rest =>
    if b < 0x80 then some (b.toNat, rest)
    else
      let count := b.toNat - 0x80
      let n := Bytes.toNat (rest.take count)
      if rest.take count = Bytes.minimal n ∧ 0x80 ≤ n ∧ count ≤ 4 then
        some (n, rest.drop count)
      else none

/-- The contents of the element with the given tag at the front, and the rest. -/
def readElement? (tag : UInt8) : Bytes → Option (Bytes × Bytes)
  | [] => none
  | b :: rest => do
    guard (b = tag)
    let (length, rest) ← readLength? rest
    guard (length ≤ rest.length)
    return (rest.take length, rest.drop length)

/-- The number of an integer's contents, in their shortest form. -/
def readNatural? : Bytes → Option Nat
  | [] => none
  | [b] => if b < 0x80 then some b.toNat else none
  | a :: b :: rest =>
    if a = 0 then if b < 0x80 then none else some (Bytes.toNat (b :: rest))
    else if a < 0x80 then some (Bytes.toNat (a :: b :: rest))
    else none

/-- The two numbers of a signature. -/
def decode? (bytes : Bytes) : Option (Nat × Nat) := do
  let (contents, rest) ← readElement? sequenceTag bytes
  guard (rest = [])
  let (first, contents) ← readElement? integerTag contents
  let (second, contents) ← readElement? integerTag contents
  guard (contents = [])
  return (← readNatural? first, ← readNatural? second)

end HandleChallenge.Signature.Der
