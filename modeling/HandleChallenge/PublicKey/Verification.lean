import HandleChallenge.Algorithm
import HandleChallenge.PublicKey.Basic

/-!
# Signature schemes

The family of a key and the hash that a response names determine the signature scheme. A pair
that makes no sense has no scheme, and no signature verifies under it.
-/

namespace HandleChallenge

/-- A signature scheme. -/
inductive SignatureScheme where
  /-- RSA with the padding of PKCS #1 version 1.5. -/
  | rsaPkcs1 (hash : Digest)
  /-- DSA with a pair of numbers in DER. -/
  | dsa (hash : Digest)
  /-- ECDSA with a pair of numbers in DER or of fixed width. -/
  | ecdsaSecp256k1 (hash : Digest)
  /-- Ed25519 over the message itself. -/
  | ed25519
  deriving DecidableEq

/-- The scheme of a hash and a family of keys. -/
def SignatureScheme.derive? (algorithm : Algorithm) : KeyFamily → Option SignatureScheme
  | .rsa => algorithm.digest?.map rsaPkcs1
  | .dsa => (algorithm.digest?.filter (· ≠ .md5)).map dsa
  | .secp256k1 => (algorithm.digest?.filter (· ≠ .md5)).map ecdsaSecp256k1
  | .ed25519 => some ed25519

/-- The bytes that name a hash function before its digest in an RSA signature. -/
def Digest.rsaName : Digest → Bytes
  | md5 =>
    [0x30, 0x20, 0x30, 0x0c, 0x06, 0x08, 0x2a, 0x86, 0x48, 0x86, 0xf7, 0x0d, 0x02, 0x05, 0x05,
      0x00, 0x04, 0x10]
  | sha1 =>
    [0x30, 0x21, 0x30, 0x09, 0x06, 0x05, 0x2b, 0x0e, 0x03, 0x02, 0x1a, 0x05, 0x00, 0x04, 0x14]
  | sha256 =>
    [0x30, 0x31, 0x30, 0x0d, 0x06, 0x09, 0x60, 0x86, 0x48, 0x01, 0x65, 0x03, 0x04, 0x02, 0x01,
      0x05, 0x00, 0x04, 0x20]

/-- Whether a signature over a message verifies under the scheme of the key and the hash. A
signature that cannot be read does not. -/
def PublicKey.verify (key : PublicKey) (algorithm : Algorithm) (message signature : Bytes) :
    Bool :=
  match key, SignatureScheme.derive? algorithm key.family with
  | rsa key, some (.rsaPkcs1 hash) => key.verify hash.rsaName (hash.hash message) signature
  | dsa key, some (.dsa hash) =>
    match Signature.Der.decode? signature with
    | some (r, s) => key.verify (hash.hash message) r s
    | none => false
  | secp256k1 key, some (.ecdsaSecp256k1 hash) =>
    match Signature.Secp256k1.readSignature? signature with
    | some (r, s) => key.verify (hash.hash message) r s
    | none => false
  | ed25519 key, some .ed25519 => key.verify message signature
  | _, _ => false

end HandleChallenge
