import HandleChallenge.Value

/-!
# Refusals

Every way in which an attempt to authenticate can fail. The full message is for the server's
own records; a caller is told the diagnostic alone, which does not show what was refused.
-/

namespace HandleChallenge

/-- Why an attempt to authenticate is refused. -/
inductive Refusal where
  /-- An algorithm, wire code or credential type is unknown or does not apply. -/
  | unsupportedAlgorithm (what : String)
  /-- A response does not have its layout. -/
  | malformedResponse (reason : String)
  /-- The handle cannot be resolved. -/
  | unresolvable (reason : String)
  /-- The identity has no public key. -/
  | noPublicKey (identity : String)
  /-- No candidate credential validated the response. -/
  | failed (kind : CredentialKind)
  /-- The response names another session. -/
  | badSession
  /-- A required part is missing. -/
  | incomplete (what : String)
  /-- The response came over a transport that is not secure. -/
  | insecureTransport
  deriving DecidableEq

namespace Refusal

/-- The full message. -/
def message : Refusal → String
  | unsupportedAlgorithm what => "Unsupported algorithm: " ++ what
  | malformedResponse reason => "Malformed signed response: " ++ reason
  | unresolvable reason => "Identity unresolvable: " ++ reason
  | noPublicKey identity => "No public key found for " ++ identity
  | failed kind => "Authentication failed for " ++ kind.tag ++ " credential"
  | badSession => "Session mismatch"
  | incomplete what => "Incomplete authentication: " ++ what
  | insecureTransport => "Insecure transport"

/-- What a caller is told. -/
def diagnostic : Refusal → String
  | unsupportedAlgorithm _ => "unsupported algorithm"
  | malformedResponse _ => "malformed signed response"
  | unresolvable _ => "identity not resolvable"
  | noPublicKey _ => "no public key found"
  | failed .publicKey => "signature failed"
  | failed .secretKey => "identity not verified"
  | badSession => "bad session"
  | incomplete _ => "incomplete authentication"
  | insecureTransport => "insecure transport"

end Refusal

end HandleChallenge
