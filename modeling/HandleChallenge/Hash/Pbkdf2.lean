import HandleChallenge.Bytes.Basic

/-!
# PBKDF2

Key derivation with a pseudorandom function. Each block of the derived key is the sum of a chain
of values, the first made from the salt and the block's number.
-/

namespace HandleChallenge.Hash

/-- The sum of two byte strings, bit by bit. -/
def xorBytes (a b : Bytes) : Bytes := a.zipWith (· ^^^ ·) b

/-- `count` more links of the chain added to the sum. -/
def pbkdf2Chain (prf : Bytes → Bytes) : (count : Nat) → (link sum : Bytes) → Bytes
  | 0, _, sum => sum
  | count + 1, link, sum =>
    let next := prf link
    pbkdf2Chain prf count next (xorBytes sum next)

/-- One block of the derived key. The chain has at least one link. -/
def pbkdf2Block (prf : Bytes → Bytes) (salt : Bytes) (iterations number : Nat) : Bytes :=
  let first := prf (salt ++ Bytes.ofNat 4 number)
  pbkdf2Chain prf (iterations - 1) first first

/-- The first `length` bytes of the derived key, from blocks of `width` bytes. -/
def pbkdf2 (prf : Bytes → Bytes) (width : Nat) (salt : Bytes) (iterations length : Nat) : Bytes :=
  ((List.range ((length + width - 1) / width)).flatMap fun i =>
    pbkdf2Block prf salt iterations (i + 1)).take length

end HandleChallenge.Hash
