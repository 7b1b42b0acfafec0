import HandleChallenge.Outcome

/-!
# The server's own signing key

With its own key the server proves itself to a client: it signs the nonce pair when asked to.
-/

namespace HandleChallenge

/-- Why the server could not sign. -/
inductive SignerError where
  | failed (reason : String)
  deriving DecidableEq

/-- The wording of a signer error. -/
def SignerError.message : SignerError → String
  | failed reason => "Signing failed: " ++ reason

/-- The server's own signing key. -/
structure ServerSigner where
  /-- The name that clients are told. -/
  algorithm : String
  /-- The signature over a message. -/
  sign : Bytes → Except SignerError Bytes
  /-- The key that clients verify with. -/
  publicKey? : Option PublicKey

namespace ServerSigner

/-- The Ed25519 key of a seed. -/
def ofSeed (seed : Bytes) : ServerSigner where
  algorithm := "Ed25519"
  sign message := .ok (Signature.Ed25519.sign seed message)
  publicKey? :=
    (Signature.Ed25519.PublicKey.ofBytes? (Signature.Ed25519.publicBytes seed)).map .ed25519

/-- The signature over a message, under the signer's name. -/
def certify (signer : ServerSigner) (message : Bytes) : Except SignerError ServerSignature := do
  return { algorithm := signer.algorithm, bytes := (← signer.sign message) }

/-- Whether a signature is one of this key over a nonce pair. -/
def recognises (signer : ServerSigner) (signature : ServerSignature)
    (serverNonce clientNonce : Bytes) : Bool :=
  signer.publicKey?.any fun key => signature.verify key serverNonce clientNonce

end ServerSigner

end HandleChallenge
