import HandleChallenge.Bytes.Basic

/-!
# HMAC

The keyed hash of a message for a hash function with blocks of sixty-four bytes. The key enters
as one block: a longer key is hashed first and the rest of the block is zero, so that keys with
one block have one MAC (`hmac_eq_of_blockKey_eq`), for instance a short key and the same key
with a zero byte behind it.
-/

namespace HandleChallenge.Hash

/-- Bytes in a block. -/
def hmacBlock : Nat := 64

/-- The block of a key. -/
def blockKey (hash : Bytes → Bytes) (key : Bytes) : Bytes :=
  let short := if hmacBlock < key.length then hash key else key
  short ++ List.replicate (hmacBlock - short.length) 0

/-- The keyed hash of a message. -/
def hmac (hash : Bytes → Bytes) (key message : Bytes) : Bytes :=
  let block := blockKey hash key
  hash (block.map (· ^^^ 0x5c) ++ hash (block.map (· ^^^ 0x36) ++ message))

theorem hmac_eq_of_blockKey_eq {hash : Bytes → Bytes} {key other : Bytes}
    (h : blockKey hash key = blockKey hash other) (message : Bytes) :
    hmac hash key message = hmac hash other message := by
  simp [hmac, h]

end HandleChallenge.Hash
