import HandleChallenge.Identity
import HandleChallenge.PublicKey.Verification

/-!
# Outcomes

What one pass through authentication found: whether an identity was claimed, whether one is
authenticated, every refusal in the order it happened, and the server's own signature where it
was asked for.
-/

namespace HandleChallenge

/-- The server's signature over a nonce pair, with the name of its algorithm. -/
structure ServerSignature where
  algorithm : String
  bytes : Bytes
  deriving DecidableEq

/-- Whether a server's signature over a nonce pair verifies. A name that is no hash leaves the
choice of hash at SHA-256. -/
def ServerSignature.verify (signature : ServerSignature) (key : PublicKey)
    (serverNonce clientNonce : Bytes) : Bool :=
  let named := (Algorithm.resolve signature.algorithm).toOption.filter (·.isSignatureHash)
  key.verify (named.getD .sha256) (serverNonce ++ clientNonce) signature.bytes

/-- What one pass through authentication found. -/
structure Outcome where
  /-- An identity was claimed in this request. -/
  attempted : Bool
  /-- An identity is authenticated. -/
  succeeded : Bool
  identity : Option Identity
  kind : Option CredentialKind
  refusals : List Refusal
  signature : Option ServerSignature
  deriving DecidableEq

namespace Outcome

/-- Nothing was claimed and no identity is known. -/
def notAttempted : Outcome :=
  { attempted := false, succeeded := false, identity := none, kind := none, refusals := [],
    signature := none }

/-- The claim was accepted, after the given refusals. -/
def success (identity : Identity) (kind : CredentialKind) (refusals : List Refusal) : Outcome :=
  { attempted := true, succeeded := true, identity := some identity, kind := some kind, refusals,
    signature := none }

/-- The claim was refused. -/
def failure (refusals : List Refusal) : Outcome :=
  { attempted := true, succeeded := false, identity := none, kind := none, refusals,
    signature := none }

/-- Nothing was claimed and the session is authenticated from before. -/
def continuation (identity : Identity) (kind : CredentialKind) : Outcome :=
  { attempted := false, succeeded := true, identity := some identity, kind := some kind,
    refusals := [], signature := none }

def withSignature (outcome : Outcome) (signature : Option ServerSignature) : Outcome :=
  { outcome with signature }

/-- A claim was made and not accepted. -/
def isFailure (outcome : Outcome) : Bool := outcome.attempted && !outcome.succeeded

/-- What a caller is told, one text for each refusal. -/
def diagnostics (outcome : Outcome) : List String := outcome.refusals.map Refusal.diagnostic

end Outcome

end HandleChallenge
