import HandleChallenge.Bytes.Basic

/-!
# Messages as blocks of words

The hash functions here consume a message in blocks. `pad` completes the last block with a one
bit, zeros and the length in bits, so that the padded message is a whole number of blocks; `blocks`
cuts it up and the `words` functions read a block as machine words.
-/

namespace HandleChallenge.Hash

/-- The zero bytes that complete a block of `size` bytes behind the one bit and before a length
of `width` bytes. -/
def paddingZeros (size width length : Nat) : Nat := (2 * size - (length + 1 + width) % size) % size

/-- The message behind which a one bit, zeros and the length in bits complete the last block.
`lengthField` writes the length. -/
def pad (size width : Nat) (lengthField : Nat → Bytes) (message : Bytes) : Bytes :=
  message ++ 0x80 :: List.replicate (paddingZeros size width message.length) 0 ++
    lengthField (8 * message.length)

/-- The first `count` blocks of `size` bytes. -/
def blocks (size : Nat) : (count : Nat) → Bytes → List Bytes
  | 0, _ => []
  | count + 1, bytes => bytes.take size :: blocks size count (bytes.drop size)

/-- Four bytes to a word, most significant first. -/
def words32 : Bytes → List UInt32
  | a :: b :: c :: d :: rest => UInt32.ofNat (Bytes.toNat [a, b, c, d]) :: words32 rest
  | _ => []

/-- Four bytes to a word, least significant first. -/
def words32Low : Bytes → List UInt32
  | a :: b :: c :: d :: rest => UInt32.ofNat (Bytes.toNat [d, c, b, a]) :: words32Low rest
  | _ => []

/-- Eight bytes to a word, most significant first. -/
def words64 : Bytes → List UInt64
  | a :: b :: c :: d :: e :: f :: g :: h :: rest =>
    UInt64.ofNat (Bytes.toNat [a, b, c, d, e, f, g, h]) :: words64 rest
  | _ => []

/-- The bits of a word turned left. -/
def rotateLeft32 (x : UInt32) (n : UInt32) : UInt32 := x <<< n ||| x >>> (32 - n)

/-- The bits of a word turned right. -/
def rotateRight32 (x : UInt32) (n : UInt32) : UInt32 := x >>> n ||| x <<< (32 - n)

/-- The bits of a word turned right. -/
def rotateRight64 (x : UInt64) (n : UInt64) : UInt64 := x >>> n ||| x <<< (64 - n)

end HandleChallenge.Hash
