import HandleChallenge.Secret.Mac
import HandleChallenge.Text.Utf8

/-!
# Signed responses

What a credential holder returns for a nonce pair. A secret-key response is a code byte and a
payload; a public-key response is the name of the hash and the signature, both as blocks.
-/

namespace HandleChallenge

/-- What a credential holder returns for a nonce pair. -/
inductive SignedResponse where
  /-- A MAC, in an envelope where a key was derived. -/
  | secretKey (algorithm : Algorithm) (payload : Bytes)
  /-- A signature and the hash that it was made with. -/
  | publicKey (algorithm : Algorithm) (signature : Bytes)
  deriving DecidableEq

namespace SignedResponse

def kind : SignedResponse → CredentialKind
  | secretKey .. => .secretKey
  | publicKey .. => .publicKey

def algorithm : SignedResponse → Algorithm
  | secretKey algorithm _ => algorithm
  | publicKey algorithm _ => algorithm

/-- The payload or the signature. -/
def payload : SignedResponse → Bytes
  | secretKey _ payload => payload
  | publicKey _ signature => signature

/-- The refusal of an algorithm that no signature uses. -/
def notSignatureHash (algorithm : Algorithm) : Refusal :=
  .unsupportedAlgorithm (algorithm.name ++ " with " ++ CredentialKind.publicKey.tag)

/-- The public-key response with a hash that signatures use. -/
def ofSignature (algorithm : Algorithm) (signature : Bytes) : Except Refusal SignedResponse :=
  if algorithm.isSignatureHash then .ok (publicKey algorithm signature)
  else .error (notSignatureHash algorithm)

/-- The response with a bare MAC or signature; a MAC under a derived key is put into its
envelope. -/
def ofParts (kind : CredentialKind) (algorithm : Algorithm) (raw : Bytes)
    (derivation : Option Derivation) : Except Refusal SignedResponse :=
  match kind with
  | .secretKey =>
    match algorithm.method, derivation with
    | .pbkdf2, some derivation => .ok (secretKey algorithm (Envelope.encode ⟨derivation, raw⟩))
    | .pbkdf2, none => .error (.incomplete "PBKDF2 response without salt, iterations and length")
    | _, _ => .ok (secretKey algorithm raw)
  | .publicKey => ofSignature algorithm raw

/-- The bytes of a response. -/
def encode : SignedResponse → Bytes
  | secretKey algorithm payload => Field.encodeAll [.u8 algorithm.wireCode, .raw payload]
  | publicKey algorithm signature =>
    Field.encodeAll [.block (Text.Utf8.encode algorithm.name), .block signature]

/-- The code byte and the payload behind it. -/
def secretKeyReader : Reader (UInt8 × Bytes) := do
  let code ← Reader.u8
  return (code, ← Reader.rest)

/-- The name of the hash and the signature. -/
def publicKeyReader : Reader (Bytes × Bytes) := do
  let name ← Reader.block
  let signature ← Reader.block
  Reader.finish
  return (name, signature)

/-- The response of the given kind that a byte string holds. -/
def decode (kind : CredentialKind) (bytes : Bytes) : Except Refusal SignedResponse :=
  match kind with
  | .secretKey => do
    let (code, payload) ← (secretKeyReader.decode bytes).mapError Refusal.ofLayout
    let algorithm ← Algorithm.ofWireCode code
    if payload = [] then throw (.malformedResponse "empty MAC")
    return secretKey algorithm payload
  | .publicKey => do
    let (name, signature) ← (publicKeyReader.decode bytes).mapError Refusal.ofLayout
    match Text.Utf8.decode? name with
    | none => throw (.malformedResponse "algorithm id is not text")
    | some name => ofSignature (← Algorithm.resolve name) signature

end SignedResponse

end HandleChallenge
