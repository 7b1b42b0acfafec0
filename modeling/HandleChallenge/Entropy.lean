import HandleChallenge.Bytes.Basic

/-!
# Random bytes

One request draws random bytes for a handful of purposes. What it draws is given to it whole, as
a function, so that a request is a function of its draws and a proof can compare two requests
with the same ones.
-/

namespace HandleChallenge

/-- What random bytes are for. -/
inductive Draw where
  /-- The nonce of a session that is created. -/
  | serverNonce
  /-- The nonce of a session that gets a new id. -/
  | rotatedNonce
  /-- The nonce that the server picks in the place of a client. -/
  | clientNonce
  /-- The id of a session. -/
  | sessionId
  deriving DecidableEq

/-- The random bytes of one request. -/
structure Entropy where
  /-- The bytes for a purpose, in the given number. -/
  draw : Draw → (length : Nat) → Bytes
  length_draw : ∀ purpose length, (draw purpose length).length = length

attribute [simp] Entropy.length_draw

/-- Random bytes from one stream for each purpose. -/
def Entropy.ofStreams (stream : Draw → Nat → UInt8) : Entropy where
  draw purpose length := (List.range length).map (stream purpose)
  length_draw := by simp

end HandleChallenge
