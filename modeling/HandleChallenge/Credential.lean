import HandleChallenge.Header.Printer
import HandleChallenge.Identity
import HandleChallenge.PublicKey.Basic
import HandleChallenge.Response
import HandleChallenge.Text.Base64

/-!
# Credentials

The holder's side of the exchange: a credential answers a nonce pair with a signed response and
writes the header that carries it.
-/

namespace HandleChallenge

/-- The private half of a public key. -/
inductive PrivateKey where
  /-- A seed of thirty-two bytes. -/
  | ed25519 (seed : Bytes)
  /-- A scalar between one and the order of the curve. -/
  | secp256k1 (scalar : Nat)

namespace PrivateKey

/-- The public half. -/
def publicKey? : PrivateKey → Option PublicKey
  | ed25519 seed =>
    (Signature.Ed25519.PublicKey.ofBytes? (Signature.Ed25519.publicBytes seed)).map .ed25519
  | secp256k1 scalar => (Signature.Secp256k1.publicKey? scalar).map .secp256k1

/-- The signature over a message, with the given hash where the scheme needs one. -/
def sign (key : PrivateKey) (hash : Digest) (message : Bytes) : Except Refusal Bytes :=
  match key with
  | ed25519 seed => .ok (Signature.Ed25519.sign seed message)
  | secp256k1 scalar =>
    match Signature.Secp256k1.sign? scalar (hash.hash message) with
    | some signature => .ok signature
    | none => .error (.malformedResponse PublicKey.noReason)

end PrivateKey

/-- What a holder has. -/
inductive Holding where
  /-- A shared secret, the algorithm to use and, for a derived key, its parameters. -/
  | secret (secret : Bytes) (algorithm : Algorithm) (derivation : Option Derivation)
  /-- A private key and the hash to use. -/
  | key (key : PrivateKey) (hash : Digest)

/-- An identity and what its holder has. -/
structure Credential where
  identity : Identity
  holding : Holding

namespace Credential

/-- The version of the protocol. -/
def protocolVersion : String := "0"

/-- Bytes in a client's nonce. -/
def clientNonceLength : Nat := 16

/-- A shared secret. -/
def ofSecret (identity : Identity) (secret : Bytes) (algorithm : Algorithm) : Credential :=
  { identity, holding := .secret secret algorithm none }

/-- A shared secret from which a key is derived. -/
def ofDerivedSecret (identity : Identity) (secret : Bytes) (derivation : Derivation) :
    Credential :=
  { identity, holding := .secret secret .pbkdf2HmacSha1 (some derivation) }

/-- A private key with an algorithm, which has to be a hash. -/
def ofKey (identity : Identity) (key : PrivateKey) (algorithm : Algorithm) :
    Except Refusal Credential :=
  match algorithm.digest? with
  | some hash => .ok { identity, holding := .key key hash }
  | none => .error (SignedResponse.notSignatureHash algorithm)

def kind (credential : Credential) : CredentialKind :=
  match credential.holding with
  | .secret .. => .secretKey
  | .key .. => .publicKey

def algorithm (credential : Credential) : Algorithm :=
  match credential.holding with
  | .secret _ algorithm _ => algorithm
  | .key _ hash => hash.algorithm

/-- The parameters of a derived key. -/
def derivation? (credential : Credential) : Option Derivation :=
  match credential.holding with
  | .secret _ _ derivation => derivation
  | .key .. => none

/-- The public half of a private key. -/
def publicKey? (credential : Credential) : Option PublicKey :=
  match credential.holding with
  | .secret .. => none
  | .key key _ => key.publicKey?

/-- The bare MAC or signature over a nonce pair. -/
def sign (credential : Credential) (serverNonce clientNonce : Bytes) : Except Refusal Bytes :=
  match credential.holding with
  | .secret secret algorithm derivation =>
    Mac.compute algorithm secret serverNonce clientNonce derivation
  | .key key hash => key.sign hash (serverNonce ++ clientNonce)

/-- The signed response to a nonce pair. -/
def respond (credential : Credential) (serverNonce clientNonce : Bytes) :
    Except Refusal SignedResponse := do
  let raw ← credential.sign serverNonce clientNonce
  SignedResponse.ofParts credential.kind credential.algorithm raw credential.derivation?

open Header (Known)

/-- The parameters of a header with the given MAC or signature. -/
def params (credential : Credential) (sessionId : Option String) (clientNonce raw : Bytes) :
    Header.Params :=
  let basic : List (Known × String) :=
    [(.version, protocolVersion), (.id, credential.identity.text), (.type, credential.kind.tag),
      (.alg, credential.algorithm.name), (.cnonce, Text.Base64.encode clientNonce),
      (.signature, Text.Base64.encode raw)]
  let session : List (Known × String) := sessionId.toList.map (.sessionId, ·)
  let derived : List (Known × String) := credential.derivation?.toList.flatMap fun d =>
    [(.salt, Text.Base64.encode d.salt), (.iterations, Text.Decimal.text d.iterations.toNat),
      (.length, Text.Decimal.text d.lengthBits.toNat)]
  Header.Params.ofList ((basic ++ session ++ derived).map fun (known, value) => (known.key, value))

/-- The header that answers a server's nonce. -/
def authorization (credential : Credential) (sessionId : Option String)
    (serverNonce clientNonce : Bytes) : Except Refusal String := do
  let raw ← credential.sign serverNonce clientNonce
  return Header.serialize (credential.params sessionId clientNonce raw)

end Credential

end HandleChallenge
