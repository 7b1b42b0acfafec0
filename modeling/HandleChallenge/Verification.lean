import HandleChallenge.KeySource.Basic
import HandleChallenge.PublicKey.Verification
import HandleChallenge.Response

/-!
# Verification

Whether a signed response proves an identity, and by the credential at which index. Public keys
are tried in the order of their indices and the first that verifies counts; a secret is checked
by the key source, which holds it.
-/

namespace HandleChallenge

/-- A claimed identity and the response that is to prove it. -/
structure VerificationRequest where
  identity : Identity
  response : SignedResponse
  serverNonce : Bytes
  clientNonce : Bytes
  deriving DecidableEq

namespace VerificationRequest

/-- The message that a signature is over. -/
def signedBytes (request : VerificationRequest) : Bytes :=
  request.serverNonce ++ request.clientNonce

/-- The challenge of a MAC. -/
def challenge (request : VerificationRequest) (algorithm : Algorithm) (payload : Bytes) :
    SecretChallenge where
  identity := request.identity
  algorithm := algorithm
  serverNonce := request.serverNonce
  clientNonce := request.clientNonce
  payload := payload

/-- The first of the given keys under which the signature verifies. A value that holds no key is
passed over. -/
def tryKeys (request : VerificationRequest) (algorithm : Algorithm) (signature : Bytes) :
    List Value → Consultation (Except Refusal Identity)
  | [] => .done (.error (.failed .publicKey))
  | candidate :: rest =>
    .ask (.decode candidate) fun
      | .ok key =>
        if key.verify algorithm request.signedBytes signature then
          .done (.ok (request.identity.withIndex candidate.index))
        else request.tryKeys algorithm signature rest
      | .error _ => request.tryKeys algorithm signature rest

/-- The identity that a signature proves. -/
def verifySignature (request : VerificationRequest) (algorithm : Algorithm) (signature : Bytes) :
    Consultation (Except Refusal Identity) :=
  .ask (.candidates request.identity) fun
    | .error refusal => .done (.error refusal)
    | .ok [] => .done (.error (.noPublicKey request.identity.text))
    | .ok candidates => request.tryKeys algorithm signature (Value.sortByIndex candidates)

/-- The identity that a MAC proves. -/
def verifyMac (request : VerificationRequest) (algorithm : Algorithm) (payload : Bytes) :
    Consultation (Except Refusal Identity) :=
  .ask (.secret (request.challenge algorithm payload)) fun
    | .error refusal => .done (.error refusal)
    | .ok none => .done (.error (.failed .secretKey))
    | .ok (some index) => .done (.ok (request.identity.withIndex index))

/-- The identity that a response proves: the claimed handle, at the index of the credential. -/
def verify (request : VerificationRequest) : Consultation (Except Refusal Identity) :=
  match request.response with
  | .publicKey algorithm signature => request.verifySignature algorithm signature
  | .secretKey algorithm payload => request.verifyMac algorithm payload

end VerificationRequest

end HandleChallenge
