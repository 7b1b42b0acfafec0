import HandleChallenge.Number.Modular
import HandleChallenge.Bytes.Basic

/-!
# RSA signatures, PKCS #1 version 1.5

A key is a modulus and a public exponent within bounds. A signature is valid when, raised to the
exponent, it is the padded digest behind the name of its hash function, written out in full:
the padding is rebuilt and compared, never parsed.
-/

namespace HandleChallenge.Signature.Rsa

/-- Why a modulus and an exponent make no key. -/
inductive KeyError where
  | modulusTooLarge
  | exponentTooLarge
  | invalidModulus
  | invalidExponent
  | exponentTooSmall
  deriving DecidableEq

/-- The wording of a key error. -/
def KeyError.message : KeyError → String
  | modulusTooLarge => "modulus too large"
  | exponentTooLarge => "public exponent too large"
  | invalidModulus => "invalid modulus"
  | invalidExponent => "invalid exponent"
  | exponentTooSmall => "public exponent too small"

/-- Bits of the largest modulus. -/
def maxModulusBits : Nat := 4096

/-- The largest exponent. -/
def maxExponent : Nat := 0x1ffffffff

/-- The first reason, if any, to refuse a modulus and an exponent. -/
def keyError? (modulus exponent : Nat) : Option KeyError :=
  if maxModulusBits ≤ modulus.log2 then some .modulusTooLarge
  else if UInt64.size ≤ exponent then some .exponentTooLarge
  else if modulus ≤ exponent ∨ modulus % 2 = 0 then some .invalidModulus
  else if exponent % 2 = 0 then some .invalidExponent
  else if exponent < 2 then some .exponentTooSmall
  else if maxExponent < exponent then some .exponentTooLarge
  else none

/-- A public key. -/
structure PublicKey where
  modulus : Nat
  exponent : Nat
  valid : keyError? modulus exponent = none
  deriving DecidableEq

/-- The key of a modulus and an exponent. -/
def PublicKey.ofParts (modulus exponent : Nat) : Except KeyError PublicKey :=
  match h : keyError? modulus exponent with
  | none => .ok ⟨modulus, exponent, h⟩
  | some error => .error error

/-- The padded block of `size` bytes for a digest behind the name of its hash function. -/
def paddedDigest? (size : Nat) (hashName digest : Bytes) : Option Bytes :=
  let info := hashName ++ digest
  if size < info.length + 11 then none
  else some ([0x00, 0x01] ++ List.replicate (size - info.length - 3) 0xFF ++ 0x00 :: info)

/-- Whether a signature is the key's for a digest. -/
def PublicKey.verify (key : PublicKey) (hashName digest signature : Bytes) : Bool :=
  let size := (Bytes.minimal key.modulus).length
  let s := Bytes.toNat signature
  signature.length == size && decide (s < key.modulus) &&
    paddedDigest? size hashName digest ==
      some (Bytes.ofNat size (Modular.pow key.modulus s key.exponent))

end HandleChallenge.Signature.Rsa
