import HandleChallenge.KeySource.Basic
import HandleChallenge.Resolution.Basic
import HandleChallenge.Secret.Mac

/-!
# Keys from values at hand

A source that reads the values of handles itself. A derived key is computed for a named index
alone, so that a request costs at most one derivation.
-/

namespace HandleChallenge.KeySource

/-- The index of the first secret under which a MAC is right. A MAC that cannot be checked at all
ends the search. -/
def matchSecret (challenge : SecretChallenge) (maxIterations : UInt32) :
    List Value → Except Refusal (Option UInt32)
  | [] => .ok none
  | secret :: rest => do
    if ← Mac.verify challenge.algorithm secret.data challenge.serverNonce challenge.clientNonce
        challenge.payload maxIterations then
      return some secret.index
    else matchSecret challenge maxIterations rest

/-- The values of a family that an identity may use. -/
def localValues (values : String → Except Resolution.Error (List Value)) (identity : Identity)
    (kind : CredentialKind) : Except Refusal (List Value) :=
  match values identity.handle with
  | .ok values => .ok (identity.select kind.tag values)
  | .error error => .error error.refusal

/-- The source that reads the values of handles from a store. -/
def ofStore (values : String → Except Resolution.Error (List Value)) (maxIterations : UInt32) :
    KeySource where
  candidates identity := localValues values identity .publicKey
  secret challenge := do
    if challenge.algorithm.method = .pbkdf2 ∧ challenge.identity.hasIndex = false then
      throw (.incomplete "PBKDF2 response without a secret key index")
    matchSecret challenge maxIterations (← localValues values challenge.identity .secretKey)

end HandleChallenge.KeySource
