import HandleChallenge.Algorithm
import HandleChallenge.Bytes.Reader
import HandleChallenge.Hash.Hmac
import HandleChallenge.Hash.Pbkdf2

/-!
# Derived keys

The parameters of a key derivation travel with the MAC that they produced, in an envelope: salt,
iterations, length in bits, MAC. Parameters are checked before any work is done with them.
-/

namespace HandleChallenge

/-- A message that does not have its layout is a malformed response. -/
def Refusal.ofLayout (error : LayoutError) : Refusal := .malformedResponse error.message

/-- The parameters of a key derivation. -/
structure Derivation where
  salt : Bytes
  iterations : UInt32
  /-- Length of the derived key in bits. -/
  lengthBits : UInt32
  deriving DecidableEq

namespace Derivation

/-- The longest derived key, in bits. -/
def maxLengthBits : UInt32 := 1024

/-- Refuses parameters that ask for no work, for more than allowed, or for a key that is not a
number of whole bytes within bounds. -/
def validate (derivation : Derivation) (maxIterations : UInt32) : Except Refusal Unit :=
  if derivation.iterations = 0 ∨ maxIterations < derivation.iterations then
    .error (.malformedResponse ("iterations " ++ toString derivation.iterations.toNat ++
      " outside 1..=" ++ toString maxIterations.toNat))
  else if derivation.lengthBits = 0 ∨ derivation.lengthBits % 8 ≠ 0 ∨
      maxLengthBits < derivation.lengthBits then
    .error (.malformedResponse ("derived key length " ++ toString derivation.lengthBits.toNat ++
      " bits"))
  else .ok ()

/-- Length of the derived key in whole bytes. -/
def lengthBytes (derivation : Derivation) : Nat := derivation.lengthBits.toNat / 8

/-- The key derived from a secret. -/
def key (derivation : Derivation) (secret : Bytes) : Bytes :=
  Hash.pbkdf2 (Hash.hmac Hash.Sha1.hash secret) 20 derivation.salt derivation.iterations.toNat
    derivation.lengthBytes

end Derivation

/-- A MAC with the parameters that produced it. -/
structure Envelope where
  derivation : Derivation
  mac : Bytes
  deriving DecidableEq

namespace Envelope

/-- The bytes of an envelope. -/
def encode (envelope : Envelope) : Bytes :=
  Field.encodeAll
    [.block envelope.derivation.salt, .u32 envelope.derivation.iterations,
      .u32 envelope.derivation.lengthBits, .block envelope.mac]

/-- Reads an envelope and nothing behind it. -/
def reader : Reader Envelope := do
  let salt ← Reader.block
  let iterations ← Reader.u32
  let lengthBits ← Reader.u32
  let mac ← Reader.block
  Reader.finish
  return { derivation := { salt, iterations, lengthBits }, mac }

/-- The envelope of a byte string. -/
def decode (bytes : Bytes) : Except Refusal Envelope :=
  (reader.decode bytes).mapError Refusal.ofLayout

end Envelope

end HandleChallenge
